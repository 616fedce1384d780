import Wallpaper.Proofs.Host.Notices

/-! Hidden flags and layouts. The flag of a group is what was set last, by a hide or by a refresh of
its members. A refresh that finds the flag against it flips the group, asks for one layout and
reports one flip; nothing else asks for a layout. -/
namespace Wallpaper

variable {σ δ π : Type}

namespace Request

/-- The hidden flag that a request sets. -/
def hides? : Request σ → Option Bool
  | .hide hidden _ => some hidden
  | .setVisible visible => some !visible
  | .restack visible _ => some !visible
  | _ => none

/-- A hide, or a refresh to the opposite. -/
def opposes (visible : Bool) : Request σ → Bool
  | .hide .. => true
  | .setVisible shown => shown != visible
  | .restack shown _ => shown != visible
  | _ => false

theorem hides?_of_refresh? {request : Request σ} {visible : Bool}
    (refreshes : request.refresh? = some visible) : request.hides? = some !visible := by
  cases request with
  | setVisible shown => cases refreshes; rfl
  | restack shown adjustment => cases refreshes; rfl
  | _ => cases refreshes

theorem hides?_of_not_opposes {request : Request σ} {visible : Bool}
    (agrees : request.opposes visible = false) : request.hides?.getD (!visible) = !visible := by
  cases request with
  | hide hidden reason => cases agrees
  | setVisible shown => simpa [opposes, hides?] using agrees
  | restack shown adjustment => simpa [opposes, hides?] using agrees
  | _ => rfl

end Request

theorem Moment.count_notices (m : Moment σ) :
    m.notices.count .layout = if m.flips then 1 else 0 := by
  obtain ⟨g, request⟩ := m
  cases request with
  | exit => cases gone : g.exiting <;> simp [notices, flips, Request.isExit, Request.refresh?, gone]
  | setVisible visible =>
    by_cases flip : g.hidden = visible <;>
      simp [notices, flips, Request.isExit, Request.refresh?, flip]
  | restack visible adjustment =>
    by_cases flip : g.hidden = visible <;>
      simp [notices, flips, Request.isExit, Request.refresh?, flip]
  | _ => rfl

theorem Moment.refresh?_of_flips {m : Moment σ} (flips : m.flips = true) :
    m.request.refresh? = some m.group.hidden :=
  (eq_of_beq flips).symm

/-- A request that was made of the group at a place, and what it made of the group. -/
structure Deal (σ : Type) extends Moment σ where
  place : Nat
  after : Group σ

namespace Deal

/-- The hidden flag that was set last at a place. -/
def lastHidden (place : Nat) (deals : List (Deal σ)) : Bool :=
  ((deals.filter (·.place = place)).filterMap (·.request.hides?)).getLast?.getD false

def flipEvent (d : Deal σ) : Event := ⟨d.group.header, .visibility d.after.hidden⟩

/-- The hidden flag that a deal sets for the group at a place. -/
def hides? (place : Nat) (d : Deal σ) : Option Bool :=
  if d.place = place then d.request.hides? else none

theorem lastHidden_append (place : Nat) (deals : List (Deal σ)) (next? : Option (Deal σ)) :
    lastHidden place (deals ++ next?.toList) =
      (next?.bind (hides? place)).getD (lastHidden place deals) := by
  cases next? with
  | none => simp
  | some d =>
    by_cases here : d.place = place
    · cases sets : d.request.hides? <;> simp [lastHidden, hides?, here, sets]
    · simp [lastHidden, hides?, here]

theorem lastHidden_unused {place : Nat} {deals : List (Deal σ)}
    (unused : ∀ d ∈ deals, d.place ≠ place) : lastHidden place deals = false := by
  have none_here : deals.filter (·.place = place) = [] :=
    List.filter_eq_nil_iff.2 fun d mem => by simpa using unused d mem
  simp [lastHidden, none_here]

end Deal

/-- Counts the requests for a layout. -/
def Notice.tally (n : Nat) : Notice → Nat
  | .layout => n + 1
  | _ => n

theorem Notice.foldl_tally (notices : List Notice) (n : Nat) :
    notices.foldl tally n = n + notices.count .layout := by
  induction notices generalizing n with
  | nil => rfl
  | cons notice rest ih =>
    cases notice <;> simp [tally, ih]
    omega

theorem Simulation.Screen.layouts_follows :
    Display.Follows Simulation.Screen.layouts Notice.tally := by
  intro screen notice
  cases notice <;> rfl

section Serving

variable [Surface σ] [Display δ] [ScrollPolicy π σ]

theorem Group.hidden_serve (g : Group σ) (display : δ) (policy : π) (request : Request σ) :
    (g.serve display policy request).result.group.hidden = request.hides?.getD g.hidden := by
  have refreshed (visible : Bool) (adjustment : Option Int32) :
      (g.refresh display policy visible adjustment).result.group.hidden = !visible := by
    obtain ⟨size, group, -⟩ := g.refresh_eq_sweep display policy visible adjustment
    rw [group]
  cases request with
  | add handle => cases refusal : g.refusal? handle <;> simp [serve, add, refusal, Request.hides?]
  | remove id => cases found : g.find? id <;> simp [serve, remove, found, Request.hides?]
  | exit => cases gone : g.exiting <;> simp [serve, exit, gone, Request.hides?]
  | setVisible visible => exact refreshed visible none
  | restack visible adjustment => exact refreshed visible (some adjustment)
  | _ => rfl

namespace Host

def deal? (h : Host σ δ π) : Act σ δ π → Option (Deal σ)
  | .request index request => (h.groups[index]?).map fun g =>
    ⟨⟨g, request⟩, index, (g.serve h.display h.policy request).result.group⟩
  | _ => none

/-- The requests that are made in a run; one to a group that does not exist is not. -/
def deals (h : Host σ δ π) : List (Act σ δ π) → List (Deal σ)
  | [] => []
  | a :: rest => (h.deal? a).toList ++ (h.act a).result.deals rest

theorem hidden_act (h : Host σ δ π) (a : Act σ δ π) {place : Nat} {g : Group σ}
    (here : h.groups[place]? = some g) :
    ∃ now, (h.act a).result.groups[place]? = some now ∧
      now.hidden = ((h.deal? a).bind (Deal.hides? place)).getD g.hidden := by
  obtain ⟨inside, -⟩ := List.getElem?_eq_some_iff.1 here
  cases a with
  | create display token =>
    exact ⟨g, by simpa [act, List.getElem?_append_left inside] using here, rfl⟩
  | request index request =>
    by_cases same : index = place
    · subst same
      refine ⟨_, by simpa [act, here] using List.getElem?_set_self inside, ?_⟩
      simpa [deal?, here, Deal.hides?] using g.hidden_serve h.display h.policy request
    · refine ⟨g, ?_, by simp [deal?, Deal.hides?, same, Option.bind_map, Function.comp_def]⟩
      cases other : h.groups[index]? with
      | none => simpa [act, other] using here
      | some _ => simpa [act, other, List.getElem?_set_ne same] using here
  | tend change => exact ⟨g, here, rfl⟩
  | govern change => exact ⟨g, here, rfl⟩

/-- A group that was not there before is new, and not hidden. -/
theorem hidden_act_new (h : Host σ δ π) (a : Act σ δ π) {place : Nat} {now : Group σ}
    (new : h.groups.length ≤ place) (there : (h.act a).result.groups[place]? = some now) :
    now.hidden = false := by
  have absent : h.groups[place]? = none := List.getElem?_eq_none new
  cases a with
  | create display token =>
    simp only [act, Group.create, Emits.result_bind, Emits.result_pure,
      List.getElem?_append_right new] at there
    rw [List.mem_singleton.1 (List.mem_of_getElem? there)]
  | request index request =>
    cases here : h.groups[index]? with
    | none => simp [act, here, absent] at there
    | some g =>
      have inside : index < h.groups.length := (List.getElem?_eq_some_iff.1 here).1
      have other : index ≠ place := by omega
      simp [act, here, List.getElem?_set_ne other, absent] at there
  | tend change => simp [act, absent] at there
  | govern change => simp [act, absent] at there

/-- The flag of every group is what was set last at its place. -/
structure Flagged (h : Host σ δ π) (deals : List (Deal σ)) : Prop where
  placed : ∀ d ∈ deals, d.place < h.groups.length
  hidden : ∀ place g, h.groups[place]? = some g → g.hidden = Deal.lastHidden place deals

theorem deal?_eq_some {h : Host σ δ π} {a : Act σ δ π} {d : Deal σ}
    (made : h.deal? a = some d) :
    a = .request d.place d.request ∧ d.place < h.groups.length := by
  cases a with
  | request index asked =>
    obtain ⟨g, here, rfl⟩ := Option.map_eq_some_iff.1 made
    exact ⟨rfl, (List.getElem?_eq_some_iff.1 here).1⟩
  | _ => cases made

theorem length_groups_act (h : Host σ δ π) (a : Act σ δ π) :
    h.groups.length ≤ (h.act a).result.groups.length := by
  have grown := congrArg List.length (h.keys_act a)
  simp only [keys, List.length_map, List.length_append] at grown
  omega

theorem Flagged.act {h : Host σ δ π} {deals : List (Deal σ)} (flagged : h.Flagged deals)
    (a : Act σ δ π) : Flagged (h.act a).result (deals ++ (h.deal? a).toList) := by
  have grown := h.length_groups_act a
  have placed : ∀ d ∈ deals ++ (h.deal? a).toList, d.place < h.groups.length := by
    intro d mem
    rcases List.mem_append.1 mem with old | new
    · exact flagged.placed d old
    · exact (deal?_eq_some (Option.mem_toList.1 new)).2
  constructor
  · intro d mem
    have before := placed d mem
    omega
  · intro place now there
    by_cases old : place < h.groups.length
    · have here := List.getElem?_eq_getElem old
      obtain ⟨same, found, hidden⟩ := h.hidden_act a here
      cases there.symm.trans found
      rw [hidden, flagged.hidden place _ here, Deal.lastHidden_append]
    · rw [h.hidden_act_new a (Nat.le_of_not_lt old) there, Deal.lastHidden_unused]
      intro d mem same
      have before := placed d mem
      omega

theorem Flagged.run {h : Host σ δ π} {deals : List (Deal σ)} (flagged : h.Flagged deals)
    (acts : List (Act σ δ π)) : Flagged (h.run acts).result (deals ++ h.deals acts) := by
  induction acts generalizing h deals with
  | nil => simpa [Host.run, Host.deals] using flagged
  | cons a rest ih => simpa [Host.run, Host.deals] using ih (flagged.act a)

/-- A flag that nothing sets against a refresh stays as the refresh set it. -/
theorem hidden_run (h : Host σ δ π) {place : Nat} {g : Group σ} {visible : Bool}
    (here : h.groups[place]? = some g) (seen : g.hidden = !visible) {acts : List (Act σ δ π)}
    (agree : ∀ request, .request place request ∈ acts → request.opposes visible = false) :
    ∃ now, (h.run acts).result.groups[place]? = some now ∧ now.hidden = !visible := by
  induction acts generalizing h g with
  | nil => exact ⟨g, here, seen⟩
  | cons a rest ih =>
    obtain ⟨now, there, hidden⟩ := h.hidden_act a here
    refine ih _ there ?_ fun request mem => agree request (List.mem_cons_of_mem _ mem)
    rw [hidden, seen]
    cases made : h.deal? a with
    | none => rfl
    | some d =>
      by_cases same : d.place = place
      · obtain ⟨rfl, -⟩ := deal?_eq_some made
        have agrees := agree d.request (same ▸ List.mem_cons_self)
        simpa [Deal.hides?, same] using Request.hides?_of_not_opposes agrees
      · simp [Deal.hides?, same]

variable [DiscreetPolicy π σ]

theorem layouts_act (h : Host σ δ π) (a : Act σ δ π) :
    (h.act a).notices.count .layout = (h.deal? a).toList.countP (·.flips) ∧
      (h.act a).flips = ((h.deal? a).toList.filter (·.flips)).map Deal.flipEvent := by
  cases a with
  | create display token =>
    rw [notices_act]
    exact ⟨rfl, by simp [act, deal?, Group.create]⟩
  | request index request =>
    cases here : h.groups[index]? with
    | none => simp [act, deal?, here]
    | some g =>
      have signals := g.signals_serve h.display h.policy request
      have count := Moment.count_notices ⟨g, request⟩
      cases flips : Moment.flips ⟨g, request⟩ with
      | false =>
        simp [act, deal?, here, signals.notices, signals.flips, count, flips]
      | true =>
        have sets := Request.hides?_of_refresh? (Moment.refresh?_of_flips flips)
        have after := g.hidden_serve h.display h.policy request
        rw [sets] at after
        simp [act, deal?, here, signals.notices, signals.flips, count, flips, Deal.flipEvent, after]
  | tend change => exact ⟨rfl, rfl⟩
  | govern change => exact ⟨rfl, rfl⟩

theorem layouts_run (h : Host σ δ π) (acts : List (Act σ δ π)) :
    (h.run acts).notices.count .layout = (h.deals acts).countP (·.flips) ∧
      (h.run acts).flips = ((h.deals acts).filter (·.flips)).map Deal.flipEvent := by
  induction acts generalizing h with
  | nil => exact ⟨rfl, rfl⟩
  | cons a rest ih =>
    obtain ⟨count, flips⟩ := h.layouts_act a
    obtain ⟨count_rest, flips_rest⟩ := ih (h.act a).result
    constructor
    · simp [run, deals, count, count_rest]
    · simp [run, deals, flips, flips_rest]

/-- A refresh that finds the group as it wants it asks for no layout. -/
theorem no_layout_again (h : Host σ δ π) {place : Nat} {visible : Bool} {first again : Request σ}
    {between : List (Act σ δ π)} (inside : place < h.groups.length)
    (refreshes : first.refresh? = some visible) (repeats : again.refresh? = some visible)
    (agree : ∀ request, .request place request ∈ between → request.opposes visible = false) :
    let later := (h.run (.request place first :: between)).result
    .layout ∉ (later.act (.request place again)).notices := by
  intro later
  have here := List.getElem?_eq_getElem inside
  obtain ⟨g, there, hidden⟩ := h.hidden_act (.request place first) here
  have seen : g.hidden = !visible := by
    simpa [deal?, here, Deal.hides?, Request.hides?_of_refresh? refreshes] using hidden
  obtain ⟨now, there, seen⟩ := hidden_run _ there seen agree
  have still : Moment.flips ⟨now, again⟩ = false := by simp [Moment.flips, repeats, seen]
  apply List.count_eq_zero.1
  rw [(layouts_act later _).1]
  simp [later, run, deal?, there, still]

/-- The account of a whole run. Each flag is what was set last; layouts are asked for, and flips are
reported, as often as a refresh found a flag against it; a display that counts the layouts comes to
this number; no other act asks for one, and no refresh that is repeated. -/
theorem layouts_accounted (display : δ) (policy : π) (acts : List (Act σ δ π)) :
    let first : Host σ δ π := start display policy
    let ran := first.run acts
    let deals := first.deals acts
    (∀ place g, ran.result.groups[place]? = some g → g.hidden = Deal.lastHidden place deals) ∧
    ran.notices.count .layout = deals.countP (·.flips) ∧
    ran.flips = (deals.filter (·.flips)).map Deal.flipEvent ∧
    (∀ layouts : δ → Nat, Display.Follows layouts Notice.tally →
      (∀ a ∈ acts, a.Leaves layouts) →
      layouts ran.result.display = layouts display + deals.countP (·.flips)) ∧
    (∀ a, (ran.result.act a).notices.count .layout =
      (ran.result.deal? a).toList.countP (·.flips)) ∧
    (∀ place visible request again between, place < ran.result.groups.length →
      request.refresh? = some visible → again.refresh? = some visible →
      (∀ asked, .request place asked ∈ between → asked.opposes visible = false) →
      let later := (ran.result.run (.request place request :: between)).result
      .layout ∉ (later.act (.request place again)).notices) := by
  intro first ran deals
  have flagged : first.Flagged [] := ⟨by simp, by simp [first, start]⟩
  obtain ⟨count, flips⟩ := first.layouts_run acts
  refine ⟨(flagged.run acts).hidden, count, flips, ?_, ?_, ?_⟩
  · intro layouts follows leaves
    rw [view_run follows first leaves, Notice.foldl_tally, count]
    rfl
  · exact fun a => (layouts_act _ a).1
  · intro place visible request again between inside refreshes repeats agree
    exact no_layout_again _ inside refreshes repeats agree

/-- Two groups that are shown, hidden and shown again in turn. -/
def showings : List (Act Simulation.Pane Simulation.Screen Simulation.Policy) :=
  [.create ⟨0⟩ ⟨1⟩, .create ⟨0⟩ ⟨2⟩, .request 0 (.add { id := ⟨7⟩ }),
    .request 0 (.setVisible true), .request 0 (.setVisible false), .request 1 (.hide true "lock"),
    .request 0 (.restack false 2), .request 1 (.restack true 1), .request 0 (.setVisible true),
    .request 2 (.setVisible true), .request 1 (.setVisible true)]

theorem layouts_accounted_showings :
    let screen : Simulation.Screen := ⟨⟨0, 0⟩, some ⟨1, 1⟩, 0, []⟩
    let first : Host Simulation.Pane Simulation.Screen Simulation.Policy :=
      start screen (.scripted [])
    let ran := first.run showings
    DiscreetPolicy Simulation.Policy Simulation.Pane ∧ (first.deals showings).countP (·.flips) = 3 ∧
      ran.notices.count .layout = 3 ∧ ran.result.display.layouts = 3 ∧ ran.flips.length = 3 := by
  intro screen first ran
  have leaves : ∀ a ∈ showings, a.Leaves Simulation.Screen.layouts := by
    simp [showings, Act.Leaves]
  have three : (first.deals showings).countP (·.flips) = 3 := by decide
  obtain ⟨-, count, flips, layouts, -⟩ := layouts_accounted screen (.scripted []) showings
  have counted := layouts _ Simulation.Screen.layouts_follows leaves
  refine ⟨inferInstance, three, count.trans three, ?_, ?_⟩
  · rw [counted, three]
  · rw [flips, List.length_map, ← List.countP_eq_length_filter, three]

end Host

end Serving

end Wallpaper
