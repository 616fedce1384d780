import Wallpaper.Proofs.Group.Stops

/-! How offsets are updated. The policy is asked about every member, with what it has become by
then, and a member whose offset changes is moved to its new place before the policy is asked
again. -/
namespace Wallpaper

open Simulation (Pane Policy)

variable {σ π : Type}

/-- A member that the policy is asked about, the policy by then, and whether the client is to
acknowledge a new offset. -/
structure Consulted (π σ : Type) where
  policy : π
  member : σ
  synchronous : Bool

namespace Consulted

section Answers

variable [ScrollPolicy π σ] (size : Size) (c : Consulted π σ)

def answer : Emits Call (Consultation π σ) :=
  ScrollPolicy.update c.policy c.member size c.synchronous

def changed : Bool := (c.answer size).result.changed

/-- The policy after these consultations, if this was the policy before them. -/
def left (policy : π) (earlier : List (Consulted π σ)) : π :=
  (earlier.getLast?.map fun c => (c.answer size).result.policy).getD policy

theorem left_concat (policy : π) (earlier : List (Consulted π σ)) :
    left size policy (earlier ++ [c]) = (c.answer size).result.policy := by
  simp [left]

end Answers

variable [Surface σ] [ScrollPolicy π σ] (size : Size) (c : Consulted π σ)

/-- Where the surface belongs, once the policy is done with it. -/
def position : Point := (Surface.placement (c.answer size).result.surface).1

def after : σ :=
  let updated := (c.answer size).result.surface
  if c.changed size then Surface.moveTo (c.position size) (Surface.placement updated).2 else updated

def visit : Visit where
  surface := Surface.id c.member
  synchronous := c.synchronous
  outcome := if c.changed size then .delivered else .unchanged

/-- The calls of the policy and the call to it. -/
def asking : List Call :=
  (c.answer size).emitted ++ [.policy (Surface.id c.member) size c.synchronous (c.changed size)]

/-- The calls of the group to the member. -/
def moving : List Call :=
  if c.changed size then
    [.shown (Surface.id c.member) (c.position size), .move (Surface.id c.member) (c.position size)]
  else []

def effects (header : Header) : List Effect :=
  (c.asking size ++ c.moving size).map .call ++ [.event ⟨header, (c.visit size).detail .offsets⟩]

theorem delivered_visit :
    (fun c : Consulted π σ => (c.visit size).delivered) = changed size := by
  funext c
  cases changes : c.changed size <;> simp [visit, changes, Visit.delivered]

theorem failed_visit : (c.visit size).failed = false := by
  cases changes : c.changed size <;> simp [visit, changes, Visit.failed]

def ofStop (p : Stop (π × Progress) σ) : Consulted π σ :=
  ⟨p.state.1, p.member, p.state.2.synchronous⟩

variable (header : Header) (p : Stop (π × Progress) σ)

theorem result_offsetVisit :
    let visited := (Group.offsetVisit header size p.state p.member).result
    visited.1 = (ofStop p).after size ∧ visited.2.1 = ((ofStop p).answer size).result.policy := by
  cases changes :
      (ScrollPolicy.update p.state.1 p.member size p.state.2.synchronous).result.changed <;>
    simp [changes, Group.offsetVisit, Ask.update, Ask.placement, Ask.moveTo, after, changed, answer,
      ofStop, position]

variable [SteadySurface σ] [SteadyPolicy π σ]

theorem emitted_offsetVisit :
    (Group.offsetVisit header size p.state p.member).emitted =
      (ofStop p).effects size header := by
  cases changes :
      (ScrollPolicy.update p.state.1 p.member size p.state.2.synchronous).result.changed <;>
    simp [changes, Group.offsetVisit, Ask.update, Ask.placement, Ask.moveTo, effects, asking,
      moving, visit, changed, answer, ofStop, position, Group.ask, Group.report, Visit.detail]

theorem learns_offsetVisit : Group.Learns (Group.offsetVisit (σ := σ) (π := π) header size)
    Prod.snd (visit size ∘ ofStop) where
  asks _ := rfl
  learns p := Group.learns_offsetVisit header size p.state p.member

end Consulted

namespace Group

variable [Surface σ] [ScrollPolicy π σ]

/-- What comes of an update of all offsets, if the policy was asked like this. -/
structure Repositions (g : Group σ) (policy : π) (size : Size) (synchronous : Bool)
    (moved : Emits Effect (Group σ × π)) (consulted : List (Consulted π σ)) : Prop where
  members : consulted.map Consulted.member = g.members.reverse
  threaded : Throughout (fun earlier c => c.policy = Consulted.left size policy earlier) consulted
  offered : Offered synchronous Consulted.synchronous (Consulted.changed size) consulted
  emitted : moved.emitted = consulted.flatMap (Consulted.effects size · g.header) ++
    [.event ⟨g.header, .broadcast .offsets g.reportedCount
      (if synchronous then (consulted.find? (Consulted.changed size)).map (Surface.id ·.member)
      else none) 0⟩]
  result : moved.result =
    ({ g with members := (consulted.map (Consulted.after size)).reverse, seq := g.seq + 1 },
      Consulted.left size policy consulted)
  ids : moved.result.1.ids = g.ids

variable [SteadySurface σ] [SteadyPolicy π σ]

/-- The policy is asked once about every member, and the first member that it changes is the only
one whose client is waited for. -/
theorem exists_repositions (g : Group σ) (policy : π) (size : Size) (synchronous : Bool) :
    ∃ consulted, g.Repositions policy size synchronous (g.reposition policy size synchronous)
      consulted := by
  let start := (policy, Progress.start synchronous)
  let swept := sweep (offsetVisit g.header size) start g.members
  let consulted := (stops (offsetVisit g.header size) start g.members).map Consulted.ofStop
  have broadcast := Consulted.learns_offsetVisit (σ := σ) (π := π) size g.header
  have starts : start.2.Sums [] := Progress.sums_start synchronous
  have offered : Offered synchronous Consulted.synchronous (Consulted.changed size) consulted := by
    rw [← Consulted.delivered_visit]
    exact broadcast.offered start g.members
  have taken : swept.result.2.2.taken = if synchronous then
      (consulted.find? (Consulted.changed size)).map (Surface.id ·.member) else none := by
    rw [← Consulted.delivered_visit]
    exact broadcast.taken start g.members starts
  have effects : swept.emitted = consulted.flatMap (Consulted.effects size · g.header) :=
    emitted_sweep start g.members fun p => Consulted.emitted_offsetVisit size g.header p
  have members : swept.result.1 = (consulted.map (Consulted.after size)).reverse :=
    members_sweep start g.members fun p => (Consulted.result_offsetVisit size g.header p).1
  have failures : swept.result.2.2.failures = 0 := by
    rw [(broadcast.sums start g.members starts).failures, List.countP_map,
      List.countP_eq_zero.2 fun c _ => by simp [Consulted.failed_visit]]
    rfl
  -- Each stop finds the policy as the consultation before it has left it.
  obtain ⟨threaded, last⟩ := throughout_stops (offsetVisit g.header size) start g.members
    (fun earlier now => now.1 = Consulted.left size policy (earlier.map Consulted.ofStop)) rfl
    fun earlier p _ => by
      rw [List.map_append, List.map_singleton, Consulted.left_concat]
      exact (Consulted.result_offsetVisit size g.header p).2
  have counted : (g.reposition policy size synchronous).result.1.reportedCount =
      g.reportedCount :=
    reportedCount_of_length (length_sweep _ start g.members)
  refine ⟨consulted, ?_⟩
  constructor
  · rw [List.map_map]
    exact map_member_stops _ start g.members
  · exact throughout_map.2 threaded
  · exact offered
  · rw [← effects, ← taken, ← counted, ← failures]
    simp [reposition, report, swept, start]
  · rw [← last, ← members]
    simp [reposition, swept, start]
  · exact (isVisit_offsetVisit g.header size).ids_sweep start g.members

/-- The policy has nothing to change for the newest member. -/
theorem exists_repositions_scripted :
    let g : Group Pane :=
      { display := ⟨0⟩, token := ⟨1⟩, hidden := false, exiting := false, seq := 4,
        members := [{ id := ⟨1⟩ }, { id := ⟨2⟩ }, { id := ⟨3⟩ }] }
    let policy := Policy.scripted [⟨1⟩, ⟨2⟩]
    let moved := g.reposition policy ⟨1080, 1920⟩ true
    moved.emitted.getLast? =
        some (.event ⟨g.header, .broadcast .offsets 3 (some ⟨2⟩) 0⟩) ∧
      ∃ consulted, g.Repositions policy ⟨1080, 1920⟩ true moved consulted := by
  intro g policy moved
  exact ⟨by decide +kernel, g.exists_repositions policy ⟨1080, 1920⟩ true⟩

end Group

end Wallpaper
