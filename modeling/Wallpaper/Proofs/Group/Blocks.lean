import Wallpaper.Proofs.Group.Life
import Wallpaper.Proofs.Group.Replay

/-! The events of one operation as a block. A change of membership and an exit are one event each.
An operation that visits the members reports every visit, newest member first, and closes with an
event that sums the visits up; before the visits stands the flip of the hidden flag, if there was
one. Nothing is reported by halves: what is no block is silence, and silence costs no number. Only
what leaves the group as it is stays silent, and what an owner does to a member behind its back. -/
namespace Wallpaper

structure Visit where
  surface : SurfaceId
  synchronous : Bool
  outcome : Outcome
deriving DecidableEq

namespace Visit

def detail (operation : Operation) (v : Visit) : Detail :=
  .dispatch operation v.surface v.synchronous v.outcome

/-- The member was asked to be synchronous, and did as it was asked. -/
def took (v : Visit) : Bool := v.synchronous && v.outcome == .delivered

def failed (v : Visit) : Bool := v.outcome matches .failed _

end Visit

/-- The closing event counts the visits and the failures among them, and names the one member that
took the operation synchronously. -/
def Detail.Closes (operation : Operation) (visits : List Visit) : Detail → Prop
  | .hide _ _ members => operation = .hide ∧ members.toNat = visits.length
  | .broadcast closed members synchronous failures =>
    closed = operation ∧ operation ≠ .hide ∧ members.toNat = visits.length ∧
      (visits.filter Visit.took).map Visit.surface = synchronous.toList ∧
      failures.toNat = visits.countP Visit.failed
  | _ => False

structure Pass where
  operation : Operation
  /-- The hidden flag after the flip. -/
  flipped : Option Bool
  visits : List Visit
  closing : Detail

namespace Pass

def details (p : Pass) : List Detail :=
  p.flipped.toList.map .visibility ++ p.visits.map (Visit.detail p.operation) ++ [p.closing]

/-- What the events of a pass over these members, oldest first, say of it. -/
structure Sound (members : List SurfaceId) (p : Pass) : Prop where
  flips : p.flipped ≠ none → p.operation = .visibility ∨ p.operation = .layers
  visited : p.visits.map Visit.surface = members.reverse
  failed : ∀ v ∈ p.visits, v.failed = true → p.operation = .command
  unchanged : ∀ v ∈ p.visits, v.outcome = .unchanged → p.operation = .offsets
  closes : p.closing.Closes p.operation p.visits

end Pass

inductive Block where
  | membership (surface : SurfaceId) (change : Change) (members : UInt32)
  | exit (members : UInt32)
  | pass (pass : Pass)

namespace Block

def details : Block → List Detail
  | membership surface change members => [.membership surface change members]
  | exit members => [.exit members]
  | pass p => p.details

def events (header : Header) (b : Block) : List Event := b.details.map (Event.mk header)

def isExit : Block → Bool
  | exit _ => true
  | _ => false

end Block

def Request.operation? : Request σ → Option Operation
  | .hide .. => some .hide
  | .send .. => some .command
  | .reposition .. => some .offsets
  | .setVisible _ => some .visibility
  | .restack .. => some .layers
  | .animate _ => some .animation
  | _ => none

/-- No event tells of the removal of a number that nobody has, of an exit after the first, of a
question, or of what an owner does to a member in place. -/
def Moment.isSilent [Surface σ] (m : Moment σ) : Bool :=
  match m.request with
  | .remove id => id ∉ m.group.ids
  | .exit => m.group.exiting
  | .awaitsDrawing | .edit .. => true
  | _ => false

theorem Moment.isSilent_eq_false [Surface σ] {g : Group σ} {request : Request σ}
    {operation : Operation} (asked : request.operation? = some operation) :
    Moment.isSilent ⟨g, request⟩ = false := by
  cases request with
  | add | remove | exit | awaitsDrawing | edit => cases asked
  | _ => rfl

inductive Moment.Tells [Surface σ] : Moment σ → Block → Prop where
  | add {g : Group σ} {handle : σ} {change : Change} {members : UInt32}
      (entering : change ≠ .removed) :
      Tells ⟨g, .add handle⟩ (.membership (Surface.id handle) change members)
  | remove {g : Group σ} {id : SurfaceId} {members : UInt32} :
      Tells ⟨g, .remove id⟩ (.membership id .removed members)
  | exit {g : Group σ} {members : UInt32} (first : g.exiting = false) :
      Tells ⟨g, .exit⟩ (.exit members)
  | pass {g : Group σ} {request : Request σ} {p : Pass}
      (asked : request.operation? = some p.operation) (sound : p.Sound g.ids) :
      Tells ⟨g, request⟩ (.pass p)

namespace Progress

def after (p : Progress) (v : Visit) : Progress :=
  match v.outcome with
  | .delivered => p.accept v.surface
  | .failed _ => p.fail
  | .unchanged => p

/-- What the broadcast knows is what its visits add up to. As long as a member may be asked to be
synchronous, none has taken the operation yet. -/
structure Sums (p : Progress) (visits : List Visit) : Prop where
  taken : (visits.filter Visit.took).map Visit.surface = p.taken.toList
  failures : p.failures = .ofNat (visits.countP Visit.failed)
  untaken : p.synchronous = true → p.taken = none

theorem sums_start (synchronous : Bool) : (start synchronous).Sums [] where
  taken := rfl
  failures := rfl
  untaken _ := rfl

theorem Sums.after {p : Progress} {visits : List Visit} (sums : p.Sums visits) {v : Visit}
    (asked : v.synchronous = p.synchronous) : (p.after v).Sums (visits ++ [v]) := by
  obtain ⟨surface, synchronous, outcome⟩ := v
  obtain rfl : synchronous = p.synchronous := asked
  have taken := sums.taken
  cases outcome with
  | delivered =>
    have failures : p.failures = .ofNat (visits.countP Visit.failed) := sums.failures
    cases open_now : p.synchronous with
    | false =>
      constructor
      · simpa [Progress.after, accept, open_now, Visit.took] using taken
      · simpa [Progress.after, accept, Visit.failed] using failures
      · intro impossible
        cases impossible
    | true =>
      have none_yet := sums.untaken open_now
      constructor
      · rw [none_yet] at taken
        simpa [Progress.after, accept, open_now, Visit.took] using taken
      · simpa [Progress.after, accept, Visit.failed] using failures
      · intro impossible
        cases impossible
  | failed error =>
    constructor
    · simpa [Progress.after, fail, Visit.took] using taken
    · simp [Progress.after, fail, Visit.failed, sums.failures, UInt32.ofNat_add]
    · exact sums.untaken
  | unchanged =>
    constructor
    · simpa [Progress.after, Visit.took] using taken
    · simpa [Progress.after, Visit.failed] using sums.failures
    · exact sums.untaken

end Progress

/-- What a request leaves behind: no event and no number used if it is a silent one, or else one
block and one number. -/
inductive Moment.Accounts [Surface σ] (m : Moment σ) (events : List Event) (now : Group σ) :
    Option Block → Prop where
  | silent (quiet : m.isSilent = true) (nothing : events = []) (seq : now.seq = m.group.seq)
      (exiting : now.exiting = m.group.exiting) : Accounts m events now none
  | told {block : Block} (loud : m.isSilent = false) (tells : m.Tells block)
      (all : events = block.events m.group.header) (seq : now.seq = m.group.seq + 1)
      (exiting : now.exiting = (m.group.exiting || block.isExit)) :
      Accounts m events now (some block)

namespace Group

variable {σ δ π s : Type}

def rounds (visit : s → σ → Emits Effect (σ × s)) (account : s → σ → Visit) (state : s) :
    List σ → List Visit
  | [] => []
  | member :: newer =>
    rounds visit account state newer ++ [account (sweep visit state newer).result.2 member]

/-- Every visit is told by one event, with an outcome that the operation can have. -/
structure Recounts [Surface σ] (header : Header) (operation : Operation)
    (visit : s → σ → Emits Effect (σ × s)) (account : s → σ → Visit) : Prop where
  events (state : s) (member : σ) :
    (visit state member).events = [⟨header, (account state member).detail operation⟩]
  surface (state : s) (member : σ) : (account state member).surface = Surface.id member
  failed (state : s) (member : σ) : (account state member).failed = true → operation = .command
  unchanged (state : s) (member : σ) :
    (account state member).outcome = .unchanged → operation = .offsets

section Rounds

variable {header : Header} {operation : Operation} {visit : s → σ → Emits Effect (σ × s)}
  {account : s → σ → Visit}

theorem forall_rounds {p : Visit → Prop} (every : ∀ state member, p (account state member))
    (state : s) (members : List σ) : ∀ v ∈ rounds visit account state members, p v := by
  induction members with
  | nil => simp [rounds]
  | cons member newer ih =>
    intro v mem
    rcases List.mem_append.1 mem with mem | mem
    · exact ih v mem
    · rw [List.mem_singleton.1 mem]
      exact every _ member

/-- A broadcast that asks each member as its progress says, and takes what came of it into its
progress, knows at the end what its visits add up to. -/
theorem sums_rounds (progress : s → Progress)
    (asks : ∀ state member, (account state member).synchronous = (progress state).synchronous)
    (learns : ∀ state member, progress (visit state member).result.2 =
      (progress state).after (account state member))
    (state : s) (sums : (progress state).Sums []) (members : List σ) :
    (progress (sweep visit state members).result.2).Sums
      (rounds visit account state members) := by
  induction members with
  | nil => exact sums
  | cons member newer ih =>
    have next := ih.after (asks _ member)
    rw [← learns] at next
    exact next

variable [Surface σ]

theorem Recounts.events_sweep (recounts : Recounts header operation visit account) (state : s)
    (members : List σ) : (sweep visit state members).events =
      (rounds visit account state members).map fun v => ⟨header, v.detail operation⟩ := by
  induction members with
  | nil => rfl
  | cons member newer ih => simp [sweep, rounds, ih, recounts.events]

theorem Recounts.surfaces (recounts : Recounts header operation visit account) (state : s)
    (members : List σ) : (rounds visit account state members).map Visit.surface =
      (members.map Surface.id).reverse := by
  induction members with
  | nil => rfl
  | cons member newer ih => simp [rounds, ih, recounts.surface]

theorem Recounts.length_rounds (recounts : Recounts header operation visit account) (state : s)
    (members : List σ) : (rounds visit account state members).length = members.length := by
  have surfaces := congrArg List.length (recounts.surfaces state members)
  simpa using surfaces

end Rounds

section Visits

variable [Surface σ] [SteadySurface σ]

/-- A visit that nothing can go wrong with, and that nobody waits for. -/
def quiet (_ : s) (member : σ) : Visit := ⟨Surface.id member, false, .delivered⟩

theorem recounts_hideVisit (header : Header) (hidden : Bool) (reason : String) :
    Recounts header .hide (hideVisit (σ := σ) header hidden reason) quiet where
  events _ member := by simp [hideVisit, quiet, Visit.detail, Ask.hide]
  surface _ _ := rfl
  failed _ _ := nofun
  unchanged _ _ := nofun

def commandVisited (command : Command) (p : Progress) (member : σ) : Visit where
  surface := Surface.id member
  synchronous := p.synchronous
  outcome := match (Surface.dispatch command p.synchronous member).1 with
    | none => .delivered
    | some error => .failed error

theorem recounts_commandVisit (header : Header) (command : Command) :
    Recounts header .command (commandVisit (σ := σ) header command) (commandVisited command) where
  events p member := by
    unfold commandVisit
    cases answer : (Surface.dispatch command p.synchronous member).1 <;>
      simp [answer, commandVisited, Visit.detail, Ask.dispatch]
  surface _ _ := rfl
  failed _ _ _ := rfl
  unchanged p member := by
    cases answer : (Surface.dispatch command p.synchronous member).1 <;>
      simp [answer, commandVisited]

theorem learns_commandVisit (header : Header) (command : Command) (p : Progress) (member : σ) :
    (commandVisit header command p member).result.2 =
      p.after (commandVisited command p member) := by
  unfold commandVisit
  cases answer : (Surface.dispatch command p.synchronous member).1 <;>
    simp [answer, commandVisited, Progress.after, Ask.dispatch]

def offsetVisited [ScrollPolicy π σ] (display : Size) (state : π × Progress) (member : σ) :
    Visit where
  surface := Surface.id member
  synchronous := state.2.synchronous
  outcome :=
    if (ScrollPolicy.update state.1 member display state.2.synchronous).result.changed then
      .delivered
    else .unchanged

theorem recounts_offsetVisit [ScrollPolicy π σ] [SteadyPolicy π σ] (header : Header)
    (display : Size) : Recounts header .offsets (offsetVisit (σ := σ) (π := π) header display)
      (offsetVisited display) where
  events state member := by
    cases changed :
        (ScrollPolicy.update state.1 member display state.2.synchronous).result.changed <;>
      simp [offsetVisit, changed, offsetVisited, Visit.detail, Ask.update, Ask.placement,
        Ask.moveTo]
  surface _ _ := rfl
  failed state member := by
    cases changed :
        (ScrollPolicy.update state.1 member display state.2.synchronous).result.changed <;>
      simp [changed, offsetVisited, Visit.failed]
  unchanged _ _ _ := rfl

theorem learns_offsetVisit [ScrollPolicy π σ] [SteadyPolicy π σ] (header : Header)
    (display : Size) (state : π × Progress) (member : σ) :
    (offsetVisit header display state member).result.2.2 =
      state.2.after (offsetVisited display state member) := by
  cases changed :
      (ScrollPolicy.update state.1 member display state.2.synchronous).result.changed <;>
    simp [offsetVisit, changed, offsetVisited, Progress.after, Ask.update, Ask.placement,
      Ask.moveTo]

theorem recounts_animationVisit (header : Header) (animation : Animation) :
    Recounts header .animation (animationVisit (σ := σ) header animation) quiet where
  events _ member := by simp [animationVisit, quiet, Visit.detail, Ask.animate]
  surface _ _ := rfl
  failed _ _ := nofun
  unchanged _ _ := nofun

theorem recounts_refreshVisit [ScrollPolicy π σ] [SteadyPolicy π σ] (header : Header)
    (size : Size) (visible : Bool) (adjustment : Option Int32) :
    Recounts header (refreshOperation adjustment)
      (refreshVisit (σ := σ) (π := π) header size visible adjustment) quiet where
  events policy member := by
    cases visible <;> cases adjustment <;>
      simp [refreshVisit, refreshOperation, quiet, Visit.detail, Ask.update, Ask.notifyVisible,
        Ask.shiftLayer]
  surface _ _ := rfl
  failed _ _ := nofun
  unchanged _ _ := nofun

end Visits

end Group

end Wallpaper
