import Wallpaper.Proofs.Group.Replay
import Wallpaper.Proofs.Host.Run
import Wallpaper.Proofs.Recording.RoundTrip

/-! The recording as a log of a host. The groups of a host share one recorder, and their events
come in any order of groups; a key picks out those of one group, and their replay is that group. -/
namespace Wallpaper

variable {σ δ π : Type}

/-- Leaves members their ids, and gives no reason that is too long for a recording. -/
def Request.Tame [Surface σ] : Request σ → Prop
  | .hide _ reason => (Wire.utf8 reason).length ≤ Wire.Codec.maxLength
  | .edit id change => ∀ s, Surface.id s = id → Surface.id (change s) = id
  | _ => True

def Act.Tame [Surface σ] : Act σ δ π → Prop
  | .request _ asked => asked.Tame
  | _ => True

def eventsOf (key : DisplayId × TokenId) (events : List Event) : List Event :=
  events.filter (·.key = key)

theorem eventsOf_append (key : DisplayId × TokenId) (earlier later : List Event) :
    eventsOf key (earlier ++ later) = eventsOf key earlier ++ eventsOf key later :=
  List.filter_append ..

theorem eventsOf_all {key : DisplayId × TokenId} {events : List Event}
    (all : ∀ e ∈ events, e.key = key) : eventsOf key events = events :=
  List.filter_eq_self.2 fun e mem => decide_eq_true (all e mem)

theorem eventsOf_none {key : DisplayId × TokenId} {events : List Event}
    (others : ∀ e ∈ events, e.key ≠ key) : eventsOf key events = [] :=
  List.filter_eq_nil_iff.2 fun e mem => by simpa using others e mem

namespace Group

def fresh (g : Group σ) : Group σ := ⟨g.display, g.token, [], false, false, 0⟩

theorem fresh_eq {g now : Group σ} (same : now.key = g.key) : now.fresh = g.fresh := by
  obtain ⟨display, token⟩ := Prod.mk.inj same
  rw [fresh, display, token, fresh]

variable [Surface σ] [SteadySurface σ] [Display δ] [ScrollPolicy π σ] [SteadyPolicy π σ]

theorem told_serve (g : Group σ) (display : δ) (policy : π) {request : Request σ}
    (tame : request.Tame) :
    Told g (g.serve display policy request).events
      (g.serve display policy request).result.group := by
  cases request with
  | add handle => simpa [serve] using g.told_add handle
  | remove id => simpa [serve] using g.told_remove id
  | exit => simpa [serve] using g.told_exit display
  | hide hidden reason => simpa [serve] using g.told_hide hidden reason tame
  | send command synchronous => simpa [serve] using g.told_send command synchronous
  | reposition size synchronous => simpa [serve] using g.told_reposition policy size synchronous
  | setVisible visible => simpa [serve, setVisible] using g.told_refresh display policy visible none
  | restack visible adjustment =>
    simpa [serve, restack] using g.told_refresh display policy visible (some adjustment)
  | animate animation => simpa [serve] using g.told_animate animation
  | awaitsDrawing => simpa [serve, events_awaitsDrawing] using Told.silent rfl rfl
  | edit id change => simpa [serve] using g.told_modify id change tame

end Group

namespace Host

section Invariant

variable [Surface σ]

/-- The events so far come from the groups there are, and tell how each of them became what it
is. -/
structure Logged (h : Host σ δ π) (events : List Event) : Prop where
  known : ∀ e ∈ events, e.key ∈ h.keys
  told : ∀ g ∈ h.groups, Group.Told g.fresh (eventsOf g.key events) g

theorem Logged.fits {h : Host σ δ π} {events : List Event} (logged : h.Logged events) :
    ∀ e ∈ events, e.Fits := by
  intro e mem
  obtain ⟨g, there, same⟩ := List.mem_map.1 (logged.known e mem)
  exact (logged.told g there).fits e (List.mem_filter.2 ⟨mem, decide_eq_true same.symm⟩)

theorem logged_start (display : δ) (policy : π) :
    (start display policy : Host σ δ π).Logged [] where
  known := by simp
  told := by simp [start]

theorem Logged.create {h : Host σ δ π} {events : List Event} (logged : h.Logged events)
    (display : DisplayId) (token : TokenId) (shown : δ) (new : (display, token) ∉ h.keys) :
    Logged { h with groups := h.groups ++ [⟨display, token, [], false, false, 0⟩],
                    display := shown } events where
  known e mem := by simpa [keys] using Or.inl (logged.known e mem)
  told g there := by
    rcases List.mem_append.1 there with there | there
    · exact logged.told g there
    · cases List.mem_singleton.1 there
      -- A key of its own: nothing that was heard so far can be from this group.
      have unheard : eventsOf (display, token) events = [] :=
        eventsOf_none fun e mem same => new (same ▸ logged.known e mem)
      show Group.Told _ (eventsOf (display, token) events) _
      rw [unheard]
      exact .silent rfl rfl

theorem Logged.serve {h : Host σ δ π} {events : List Event} (logged : h.Logged events)
    (distinct : h.keys.Nodup) {index : Nat} {g now : Group σ} {new : List Event}
    (here : h.groups[index]? = some g) (told : Group.Told g new now) (display : δ) (policy : π)
    (returned : List σ) :
    Logged ⟨h.groups.set index now, display, policy, returned⟩ (events ++ new) where
  known e mem := by
    rw [keys, Group.map_key_set here told.key]
    rcases List.mem_append.1 mem with old | mem
    · exact logged.known e old
    · rw [told.keys e mem]
      exact List.mem_map_of_mem (List.mem_of_getElem? here)
  told other there := by
    obtain ⟨place, there⟩ := List.mem_iff_getElem?.1 there
    obtain ⟨inside, -⟩ := List.getElem?_eq_some_iff.1 here
    rw [eventsOf_append]
    by_cases same : index = place
    · subst same
      rw [List.getElem?_set_self inside] at there
      cases there
      rw [told.key, eventsOf_all told.keys, Group.fresh_eq told.key]
      exact (logged.told g (List.mem_of_getElem? here)).trans told
    · rw [List.getElem?_set_ne same] at there
      have apart : g.key ≠ other.key := by
        intro shared
        have twice : h.keys[index]? = h.keys[place]? := by simp [keys, here, there, shared]
        exact same ((List.getElem?_inj (by simpa [keys] using inside) distinct).1 twice)
      have elsewhere : eventsOf other.key new = [] :=
        eventsOf_none fun e mem => told.keys e mem ▸ apart
      rw [elsewhere, List.append_nil]
      exact logged.told other (List.mem_of_getElem? there)

end Invariant

variable [Surface σ] [SteadySurface σ] [Display δ] [ScrollPolicy π σ] [SteadyPolicy π σ]

theorem Logged.act {h : Host σ δ π} {events : List Event} (logged : h.Logged events)
    {a : Act σ δ π} (tame : a.Tame) (distinct : (h.keys ++ created [a]).Nodup) :
    Logged (h.act a).result (events ++ (h.act a).events) := by
  cases a with
  | create display token =>
    have new : (display, token) ∉ h.keys := by
      intro old
      exact (List.nodup_append.1 distinct).2.2 _ old _ (by simp [created]) rfl
    simpa [Host.act, Group.create] using logged.create display token _ new
  | request index asked =>
    cases here : h.groups[index]? with
    | none => simpa [Host.act, here] using logged
    | some g =>
      have told := g.told_serve h.display h.policy tame
      simpa [Host.act, here] using
        logged.serve (List.nodup_append.1 distinct).1 here told _ _ _
  | tend change =>
    rw [show (h.act (.tend change)).events = [] from rfl, List.append_nil]
    exact ⟨logged.known, logged.told⟩
  | govern change =>
    rw [show (h.act (.govern change)).events = [] from rfl, List.append_nil]
    exact ⟨logged.known, logged.told⟩

theorem Logged.run {h : Host σ δ π} {events : List Event} (logged : h.Logged events)
    {acts : List (Act σ δ π)} (tame : ∀ a ∈ acts, a.Tame)
    (distinct : (h.keys ++ created acts).Nodup) :
    Logged (h.run acts).result (events ++ (h.run acts).events) := by
  induction acts generalizing h events with
  | nil => simpa [Host.run] using logged
  | cons a rest ih =>
    obtain ⟨tame_a, tame_rest⟩ := List.forall_mem_cons.1 tame
    rw [created_cons, ← List.append_assoc] at distinct
    have first := logged.act tame_a (List.nodup_append.1 distinct).1
    rw [← keys_act] at distinct
    simpa [Host.run] using ih first tame_rest distinct

/-- What a recorder heard of a whole run holds every group of it: the events of a group, replayed
from the beginning, give its members in their order and its flags, and each count among them was
right when it was made. -/
theorem replay_recorded (display : δ) (policy : π) (acts : List (Act σ δ π))
    (tame : ∀ a ∈ acts, a.Tame) (distinct : (created acts).Nodup) {g : Group σ}
    (there : g ∈ ((start display policy).run acts).result.groups) :
    let log := eventsOf g.key
      (Recording.decode (Recording.recorded ((start display policy).run acts).events))
    Standing.initial.replay log = g.standing ∧ Standing.initial.Counted log := by
  have logged := (logged_start display policy).run tame (by simpa [start, keys] using distinct)
  rw [List.nil_append] at logged
  rw [Recording.recorded_eq_encode, Recording.decode_encode logged.fits]
  have told := logged.told g there
  exact ⟨told.replayed, told.counted⟩

/-- Two groups on one display, with requests made of them in turn. -/
def inTurn : List (Act Simulation.Pane Simulation.Screen Simulation.Policy) :=
  [.create ⟨0⟩ ⟨1⟩, .request 0 (.add { id := ⟨7⟩ }), .create ⟨0⟩ ⟨2⟩,
    .request 1 (.add { id := ⟨7⟩ }), .request 0 (.add { id := ⟨8⟩ }),
    .request 0 (.add { id := ⟨8⟩ }), .request 1 (.hide true "lock"), .request 0 (.remove ⟨7⟩),
    .request 0 (.edit ⟨8⟩ fun pane => { pane with visible := true }),
    .request 0 (.setVisible false), .request 0 .exit,
    .request 1 (.send ⟨"tap", 1, 2, 0, none⟩ true)]

theorem replay_recorded_inTurn :
    let ran := ((start ⟨⟨0, 0⟩, none, 0, []⟩ (.scripted [])).run inTurn)
    (∀ a ∈ inTurn, a.Tame) ∧ (created inTurn).Nodup ∧
      ∃ g ∈ ran.result.groups, g.standing = ⟨[⟨8⟩], true, true⟩ ∧
        let log := eventsOf g.key (Recording.decode (Recording.recorded ran.events))
        Standing.initial.replay log = g.standing ∧ Standing.initial.Counted log := by
  have tame : ∀ a ∈ inTurn, a.Tame := by
    have short : (Wire.utf8 "lock").length ≤ Wire.Codec.maxLength := by decide
    simp only [inTurn, List.forall_mem_cons, Act.Tame, Request.Tame, short, true_and]
    exact ⟨fun _ same => same, fun _ none => nomatch none⟩
  have distinct : (created inTurn).Nodup := by decide
  refine ⟨tame, distinct, _, List.getElem_mem (show 0 < _ from ?_), ?_,
    replay_recorded _ _ inTurn tame distinct (List.getElem_mem _)⟩
  · decide
  · decide

end Host

end Wallpaper
