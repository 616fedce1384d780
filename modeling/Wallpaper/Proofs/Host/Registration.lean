import Wallpaper.Proofs.Host.Notices

/-! The groups that a display knows. A group is registered with its display when it is created and
taken off when it begins its exit, each time under its own token. So the display knows just the
groups that are not exiting, in the order of their creation. -/
namespace Wallpaper

variable {σ δ π : Type}

/-- Keeps the tokens of the groups that came and did not leave. -/
def Notice.register (tokens : List TokenId) : Notice → List TokenId
  | .attach token => tokens ++ [token]
  | .detach token => tokens.filter (· != token)
  | .layout => tokens

theorem Simulation.Screen.attached_follows :
    Display.Follows Simulation.Screen.attached Notice.register := by
  intro screen notice
  cases notice <;> rfl

namespace Group

/-- The tokens of the groups that are not exiting. -/
def live (groups : List (Group σ)) : List TokenId := (groups.filter (!·.exiting)).map Group.token

def gone (groups : List (Group σ)) : List TokenId := (groups.filter (·.exiting)).map Group.token

theorem exists_set {groups : List (Group σ)} {index : Nat} {g : Group σ}
    (here : groups[index]? = some g) (now : Group σ) : ∃ older newer,
    groups = older ++ g :: newer ∧ groups.set index now = older ++ now :: newer := by
  obtain ⟨inside, rfl⟩ := List.getElem?_eq_some_iff.1 here
  obtain ⟨older, newer, split, -, set⟩ := @List.exists_of_set _ _ now _ inside
  exact ⟨older, newer, split, set⟩

/-- One group leaves, and no other has its token. -/
theorem live_leave {older newer : List (Group σ)} {g now : Group σ}
    (distinct : ((older ++ g :: newer).map Group.token).Nodup) (stays : g.exiting = false)
    (leaves : now.exiting = true) :
    live (older ++ now :: newer) = (live (older ++ g :: newer)).filter (· != g.token) := by
  have others : ∀ other ∈ older ++ newer, other.token ≠ g.token := by
    have first := (List.perm_middle.map Group.token).nodup_iff.1 distinct
    intro other mem same
    exact (List.nodup_cons.1 first).1 (same ▸ List.mem_map_of_mem mem)
  have before : live (older ++ g :: newer) = live older ++ g.token :: live newer := by
    simp [live, stays]
  have after : live (older ++ now :: newer) = live older ++ live newer := by simp [live, leaves]
  have kept : (live (older ++ newer)).filter (· != g.token) = live (older ++ newer) := by
    apply List.filter_eq_self.2
    intro token mem
    obtain ⟨other, stays, rfl⟩ := List.mem_map.1 mem
    simpa using others other (List.mem_filter.1 stays).1
  have joined : live (older ++ newer) = live older ++ live newer := by simp [live]
  rw [joined, List.filter_append] at kept
  rw [before, after, List.filter_append, List.filter_cons_of_neg (by simp), kept]

/- Groups leave in any order, and are listed in the order of their creation. -/
theorem gone_leave {older newer : List (Group σ)} {g now : Group σ} (token : now.token = g.token)
    (stays : g.exiting = false) (leaves : now.exiting = true) :
    (gone (older ++ now :: newer)).Perm (gone (older ++ g :: newer) ++ [g.token]) := by
  have before : gone (older ++ g :: newer) = gone older ++ gone newer := by simp [gone, stays]
  have after : gone (older ++ now :: newer) = gone older ++ g.token :: gone newer := by
    simp [gone, leaves, token]
  rw [before, after]
  exact List.perm_middle.trans (List.perm_append_singleton _ _).symm

theorem live_stay (older newer : List (Group σ)) {g now : Group σ} (token : now.token = g.token)
    (same : now.exiting = g.exiting) :
    live (older ++ now :: newer) = live (older ++ g :: newer) ∧
      gone (older ++ now :: newer) = gone (older ++ g :: newer) := by
  cases exits : g.exiting <;> simp [live, gone, same, exits, token]

/-- The display was told of every group that was created, and of every group that left. -/
structure Registered (groups : List (Group σ)) (notices : List Notice) : Prop where
  live : notices.foldl Notice.register [] = live groups
  came : notices.filterMap Notice.attached? = groups.map Group.token
  left : (notices.filterMap Notice.detached?).Perm (gone groups)

end Group

/-- What a request tells the display of registrations: the group leaves, once. -/
theorem Moment.registers_notices (m : Moment σ) (tokens : List TokenId) :
    m.notices.filterMap Notice.attached? = [] ∧
    m.notices.filterMap Notice.detached? =
      (if m.request.isExit && !m.group.exiting then [m.group.token] else []) ∧
    m.notices.foldl Notice.register tokens =
      (if m.request.isExit && !m.group.exiting then tokens.filter (· != m.group.token)
        else tokens) := by
  unfold notices
  split
  · exact ⟨rfl, rfl, rfl⟩
  · split <;> exact ⟨rfl, rfl, rfl⟩

section Serving

variable [Surface σ] [Display δ] [ScrollPolicy π σ]

theorem Group.token_serve (g : Group σ) (display : δ) (policy : π) (request : Request σ) :
    (g.serve display policy request).result.group.token = g.token :=
  congrArg Prod.snd (g.key_serve display policy request)

namespace Host

variable {h : Host σ δ π} {notices : List Notice}

theorem registered_serve (registered : Group.Registered h.groups notices)
    (distinct : (h.groups.map Group.token).Nodup) {index : Nat} {g : Group σ}
    (here : h.groups[index]? = some g) (request : Request σ) :
    Group.Registered (h.act (.request index request)).result.groups
      (notices ++ Moment.notices ⟨g, request⟩) := by
  obtain ⟨live, came, left⟩ := registered
  let now := (g.serve h.display h.policy request).result.group
  obtain ⟨older, newer, before, after⟩ := Group.exists_set here now
  have token : now.token = g.token := g.token_serve h.display h.policy request
  have exiting : now.exiting = (g.exiting || request.isExit) :=
    g.exiting_serve h.display h.policy request
  have groups : (h.act (.request index request)).result.groups = older ++ now :: newer := by
    simpa [act, here] using after
  rw [groups]
  rw [before] at live came left distinct
  obtain ⟨attached, detached, register⟩ :=
    Moment.registers_notices ⟨g, request⟩ (Group.live (older ++ g :: newer))
  have still_came : (notices ++ Moment.notices ⟨g, request⟩).filterMap Notice.attached? =
      (older ++ now :: newer).map Group.token := by
    rw [List.filterMap_append, came, attached]
    simp [token]
  cases leaves : request.isExit && !g.exiting with
  | true =>
    simp only [leaves, if_true] at detached register
    obtain ⟨exits, stays⟩ := Bool.and_eq_true_iff.1 leaves
    have stays : g.exiting = false := by simpa using stays
    have gone : now.exiting = true := by rw [exiting, exits, Bool.or_true]
    refine ⟨?_, still_came, ?_⟩
    · rw [List.foldl_append, live, register]
      exact (Group.live_leave distinct stays gone).symm
    · rw [List.filterMap_append, detached]
      exact (left.append_right _).trans (Group.gone_leave token stays gone).symm
  | false =>
    simp only [leaves, Bool.false_eq_true, if_false] at detached register
    have same : now.exiting = g.exiting := by
      rw [exiting]
      cases stays : g.exiting with
      | true => rfl
      | false => simpa [stays] using leaves
    obtain ⟨still_live, still_gone⟩ := Group.live_stay older newer token same
    refine ⟨?_, still_came, ?_⟩
    · rw [List.foldl_append, live, register, still_live]
    · rw [List.filterMap_append, detached, List.append_nil, still_gone]
      exact left

variable [DiscreetPolicy π σ]

theorem registered_act (registered : Group.Registered h.groups notices)
    (distinct : (h.groups.map Group.token).Nodup) (a : Act σ δ π) :
    Group.Registered (h.act a).result.groups (notices ++ (h.act a).notices) := by
  have unchanged : Group.Registered h.groups (notices ++ []) := by rwa [List.append_nil]
  rw [notices_act]
  cases a with
  | create display token =>
    obtain ⟨live, came, left⟩ := registered
    constructor
    · rw [List.foldl_append, live]
      simp [act, Host.notices, Group.create, Notice.register, Group.live]
    · simp [act, Host.notices, Group.create, Notice.attached?, came]
    · simpa [act, Host.notices, Group.create, Notice.detached?, Group.gone, List.filterMap_cons]
        using left
  | request index request =>
    cases here : h.groups[index]? with
    | none => simpa [act, Host.notices, here] using unchanged
    | some g => simpa [Host.notices, here] using registered_serve registered distinct here request
  | tend change => exact unchanged
  | govern change => exact unchanged

theorem registered_run (registered : Group.Registered h.groups notices) {acts : List (Act σ δ π)}
    (distinct : ((h.keys ++ created acts).map Prod.snd).Nodup) :
    Group.Registered (h.run acts).result.groups (notices ++ (h.run acts).notices) := by
  induction acts generalizing h notices with
  | nil => simpa [run] using registered
  | cons a rest ih =>
    rw [created_cons, ← List.append_assoc, ← keys_act] at distinct
    have tokens : h.groups.map Group.token = h.keys.map Prod.snd := by
      simp [keys, Group.key, Function.comp_def]
    have old : (h.groups.map Group.token).Nodup := by
      rw [keys_act, List.append_assoc, List.map_append, ← tokens] at distinct
      exact (List.nodup_append.1 distinct).1
    simpa [run] using ih (registered_act registered old a) distinct

/-- A display that keeps the tokens it is told of has, after any run, just those of the groups that
are not exiting. Each group was attached once, each that is exiting was detached once, and a request
to a group detaches that group or none: when it begins its exit. -/
theorem attached_live (display : δ) (policy : π) (acts : List (Act σ δ π))
    (distinct : ((created acts).map Prod.snd).Nodup) :
    let ran := (start display policy).run acts
    (∀ attached : δ → List TokenId, Display.Follows attached Notice.register →
      attached display = [] → (∀ a ∈ acts, a.Leaves attached) →
      attached ran.result.display = Group.live ran.result.groups) ∧
    ran.result.keys = created acts ∧
    ran.notices.filterMap Notice.attached? = (created acts).map Prod.snd ∧
    (ran.notices.filterMap Notice.detached?).Perm (Group.gone ran.result.groups) ∧
    ∀ (index : Nat) (g : Group σ) (request : Request σ), ran.result.groups[index]? = some g →
      let asked := ran.result.act (.request index request)
      asked.notices.filterMap Notice.attached? = [] ∧
      asked.notices.filterMap Notice.detached? =
        (if request.isExit && !g.exiting then [g.token] else []) ∧
      (asked.result.groups[index]?).map Group.exiting = some (g.exiting || request.isExit) := by
  intro ran
  have nothing : Group.Registered (start display policy : Host σ δ π).groups [] :=
    ⟨rfl, rfl, .refl _⟩
  obtain ⟨live, came, left⟩ := registered_run nothing distinct
  rw [List.nil_append] at live came left
  have keys : ran.result.keys = created acts := keys_run (start display policy) acts
  refine ⟨?_, keys, ?_, left, ?_⟩
  · intro attached follows none leaves
    rw [view_run follows (start display policy) leaves]
    exact none ▸ live
  · rw [came, ← keys]
    simp [Host.keys, Group.key, ran]
  · intro index g request here asked
    have told : asked.notices = Moment.notices ⟨g, request⟩ := by
      simp [asked, notices_act, Host.notices, here]
    obtain ⟨attached, detached, -⟩ := Moment.registers_notices ⟨g, request⟩ []
    have inside := (List.getElem?_eq_some_iff.1 here).1
    have exiting := g.exiting_serve ran.result.display ran.result.policy request
    refine ⟨told ▸ attached, told ▸ detached, ?_⟩
    simp [asked, act, here, List.getElem?_set_self inside, exiting]

/-- Three groups on a display that changes its size, where one leaves, twice, and goes on. -/
def leavings : List (Act Simulation.Pane Simulation.Screen Simulation.Policy) :=
  [.create ⟨0⟩ ⟨1⟩, .create ⟨0⟩ ⟨2⟩, .request 0 (.add { id := ⟨7⟩ }), .request 0 .exit,
    .tend fun screen => { screen with size := ⟨800, 600⟩ }, .request 0 (.add { id := ⟨8⟩ }),
    .request 0 (.hide true "lock"), .create ⟨0⟩ ⟨3⟩, .request 0 .exit, .request 0 (.remove ⟨7⟩),
    .request 1 (.setVisible false), .request 9 .exit]

theorem attached_live_leavings :
    let screen : Simulation.Screen := ⟨⟨0, 0⟩, some ⟨1, 1⟩, 0, []⟩
    let first : Host Simulation.Pane Simulation.Screen Simulation.Policy :=
      start screen (.scripted [])
    let ran := first.run leavings
    DiscreetPolicy Simulation.Policy Simulation.Pane ∧
      ((created leavings).map Prod.snd).Nodup ∧ ran.result.display.attached = [⟨2⟩, ⟨3⟩] ∧
      ran.notices.filterMap Notice.attached? = [⟨1⟩, ⟨2⟩, ⟨3⟩] ∧
      (ran.notices.filterMap Notice.detached?).Perm [⟨1⟩] := by
  intro screen first ran
  have distinct : ((created leavings).map Prod.snd).Nodup := by decide
  have leaves : ∀ a ∈ leavings, a.Leaves Simulation.Screen.attached := by
    simp [leavings, Act.Leaves]
  obtain ⟨kept, -, came, left, -⟩ := attached_live screen (.scripted []) leavings distinct
  have attached := kept _ Simulation.Screen.attached_follows rfl leaves
  have live : Group.live ran.result.groups = [⟨2⟩, ⟨3⟩] := by decide
  have gone : Group.gone ((start screen (.scripted [])).run leavings).result.groups = [⟨1⟩] := by
    decide
  refine ⟨inferInstance, distinct, ?_, ?_, ?_⟩
  · rw [attached, live]
  · rw [came]
    rfl
  · rwa [gone] at left

end Host

end Serving

end Wallpaper
