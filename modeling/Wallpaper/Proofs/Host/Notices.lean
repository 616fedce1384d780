import Wallpaper.Proofs.Group.Passage

/-! What a display is told. A group tells its display when it is created, when it begins its exit,
and when it is flipped; all else that goes on between a group, its members and its policy is none of
the display's business. So whatever a display keeps of its notices can be read off a run. -/
namespace Wallpaper

variable {σ δ π α s : Type}

inductive Notice where
  | layout
  | attach (token : TokenId)
  | detach (token : TokenId)
deriving DecidableEq

namespace Notice

def attached? : Notice → Option TokenId
  | attach token => some token
  | _ => none

def detached? : Notice → Option TokenId
  | detach token => some token
  | _ => none

end Notice

/-- To be asked for its size tells a display nothing. -/
def Call.notice? : Call → Option Notice
  | .layout => some .layout
  | .attach token => some (.attach token)
  | .detach token => some (.detach token)
  | _ => none

def Effect.notice? : Effect → Option Notice
  | .call c => c.notice?
  | .event _ => none

/-- A group was flipped by a visibility update. -/
def Event.isFlip (e : Event) : Bool :=
  match e.detail with
  | .visibility _ => true
  | _ => false

/-- Tells the display nothing, and reports no flip. -/
def Effect.isInternal : Effect → Bool
  | .call c => c.notice?.isNone
  | .event e => !e.isFlip

namespace Emits

def notices (x : Emits Effect α) : List Notice := x.emitted.filterMap Effect.notice?

@[simp] theorem notices_pure (a : α) : (pure a : Emits Effect α).notices = [] := rfl

@[simp] theorem notices_bind (first : Emits Effect α) (next : α → Emits Effect β) :
    (first >>= next).notices = first.notices ++ (next first.result).notices := by
  simp [notices]

@[simp] theorem notices_map (f : α → β) (x : Emits Effect α) :
    (f <$> x).notices = x.notices := by
  simp [notices]

def flips (x : Emits Effect α) : List Event := x.events.filter Event.isFlip

@[simp] theorem flips_pure (a : α) : (pure a : Emits Effect α).flips = [] := rfl

@[simp] theorem flips_bind (first : Emits Effect α) (next : α → Emits Effect β) :
    (first >>= next).flips = first.flips ++ (next first.result).flips := by
  simp [flips]

@[simp] theorem flips_map (f : α → β) (x : Emits Effect α) : (f <$> x).flips = x.flips := by
  simp [flips]

theorem silent_of_internal {x : Emits Effect α} (all : ∀ e ∈ x.emitted, e.isInternal = true) :
    x.notices = [] ∧ x.flips = [] := by
  constructor
  · apply List.filterMap_eq_nil_iff.2
    intro e mem
    cases e with
    | call c => exact Option.isNone_iff_eq_none.1 (all _ mem)
    | event e => rfl
  · apply List.filter_eq_nil_iff.2
    intro e mem
    obtain ⟨effect, mem, same⟩ := List.mem_filterMap.1 mem
    cases effect with
    | call c => cases same
    | event e =>
      cases same
      simpa [Effect.isInternal] using all _ mem

end Emits

/-- The display after a notice. -/
def Display.heed [Display δ] (d : δ) : Notice → δ
  | .layout => Display.requestLayout d
  | .attach token => Display.attach token d
  | .detach token => Display.detach token d

/-- The policy calls the surfaces that it is asked about, and no display. -/
class DiscreetPolicy (π σ : Type) [ScrollPolicy π σ] : Prop where
  discreet (policy : π) (s : σ) (display : Size) (synchronous : Bool) :
    ∀ c ∈ (ScrollPolicy.update policy s display synchronous).emitted, c.notice? = none

instance [ScrollSurface σ] : DiscreetPolicy Parallax σ where
  discreet p s display synchronous := by
    rcases Parallax.update_cases p s display synchronous with ⟨-, stays⟩ | ⟨-, scrolls⟩
    · simp [ScrollPolicy.update, stays]
    · simp [ScrollPolicy.update, scrolls, Ask.scrollTo, Call.notice?]

instance : DiscreetPolicy Simulation.Policy Simulation.Pane where
  discreet policy pane display synchronous := by
    cases policy with
    | scripted changed => simp [ScrollPolicy.update]
    | parallax state =>
      simpa [ScrollPolicy.update] using DiscreetPolicy.discreet state pane display synchronous

namespace Request

/-- Whether the members are to be visible, for a request that refreshes them. -/
def refresh? : Request σ → Option Bool
  | .setVisible visible => some visible
  | .restack visible _ => some visible
  | _ => none

end Request

namespace Moment

/-- The members are refreshed, and the hidden flag of the group says the opposite. -/
def flips (m : Moment σ) : Bool := some m.group.hidden == m.request.refresh?

def notices (m : Moment σ) : List Notice :=
  if m.request.isExit && !m.group.exiting then [.detach m.group.token]
  else if m.flips then [.layout]
  else []

end Moment

namespace Group

@[simp] theorem notices_ask (x : Emits Call α) :
    (ask x).notices = x.emitted.filterMap Call.notice? := by
  simp [ask, Emits.notices, List.filterMap_map, Function.comp_def, Effect.notice?]

@[simp] theorem notices_report (header : Header) (detail : Detail) :
    (report header detail).notices = [] := rfl

@[simp] theorem flips_ask (x : Emits Call α) : (ask x).flips = [] := by
  simp [Emits.flips]

@[simp] theorem flips_report (header : Header) (detail : Detail) :
    (report header detail).flips = [⟨header, detail⟩].filter Event.isFlip := rfl

section Visits

variable [Surface σ]

theorem internal_hideVisit (header : Header) (hidden : Bool) (reason : String) (state : Unit)
    (member : σ) :
    ∀ e ∈ (hideVisit header hidden reason state member).emitted, e.isInternal = true := by
  simp [hideVisit, ask, Ask.hide, report, Effect.isInternal, Call.notice?, Event.isFlip]

theorem internal_commandVisit (header : Header) (command : Command) (p : Progress) (member : σ) :
    ∀ e ∈ (commandVisit header command p member).emitted, e.isInternal = true := by
  unfold commandVisit
  cases answer : (Surface.dispatch command p.synchronous member).1 <;>
    simp [answer, ask, Ask.dispatch, report, Effect.isInternal, Call.notice?, Event.isFlip]

theorem internal_offsetVisit [ScrollPolicy π σ] [DiscreetPolicy π σ] (header : Header)
    (display : Size) (state : π × Progress) (member : σ) :
    ∀ e ∈ (offsetVisit header display state member).emitted, e.isInternal = true := by
  have discreet := DiscreetPolicy.discreet state.1 member display state.2.synchronous
  cases changed :
      (ScrollPolicy.update state.1 member display state.2.synchronous).result.changed <;>
    simpa [offsetVisit, changed, ask, Ask.update, Ask.placement, Ask.moveTo, report,
      Effect.isInternal, Call.notice?, Event.isFlip, or_imp, forall_and] using discreet

theorem internal_animationVisit (header : Header) (animation : Animation) (state : Unit)
    (member : σ) :
    ∀ e ∈ (animationVisit header animation state member).emitted, e.isInternal = true := by
  simp [animationVisit, ask, Ask.animate, report, Effect.isInternal, Call.notice?, Event.isFlip]

theorem internal_refreshVisit [ScrollPolicy π σ] [DiscreetPolicy π σ] (header : Header)
    (size : Size) (visible : Bool) (adjustment : Option Int32) (policy : π) (member : σ) :
    ∀ e ∈ (refreshVisit header size visible adjustment policy member).emitted,
      e.isInternal = true := by
  cases visible with
  | false =>
    cases adjustment <;>
      simp [refreshVisit, ask, Ask.notifyVisible, Ask.shiftLayer, report, Effect.isInternal,
        Call.notice?, Event.isFlip]
  | true =>
    have discreet := DiscreetPolicy.discreet policy member size false
    cases adjustment <;>
      simpa [refreshVisit, ask, Ask.update, Ask.notifyVisible, Ask.shiftLayer, report,
        Effect.isInternal, Call.notice?, Event.isFlip, or_imp, forall_and] using discreet

theorem internal_awaitsDrawing (g : Group σ) :
    ∀ e ∈ g.awaitsDrawing.emitted, e.isInternal = true := by
  unfold awaitsDrawing
  induction g.members with
  | nil => simp [awaitsDrawing.anyNewestFirst]
  | cons member newer ih =>
    simp only [awaitsDrawing.anyNewestFirst, Emits.emitted_bind]
    refine List.forall_mem_append.2 ⟨ih, ?_⟩
    split <;> simp [ask, Ask.awaitsDrawing, Effect.isInternal, Call.notice?]

end Visits

section Serving

variable [Surface σ] [Display δ] [ScrollPolicy π σ]

/-- Both requests that refresh the members do it in the same way. -/
theorem serve_of_refresh? (g : Group σ) (display : δ) (policy : π) {request : Request σ}
    {visible : Bool} (refreshes : request.refresh? = some visible) : ∃ adjustment,
    g.serve display policy request =
      (fun refreshed => { refreshed with returned := [] }) <$>
        g.refresh display policy visible adjustment := by
  cases request with
  | setVisible shown => cases refreshes; exact ⟨none, rfl⟩
  | restack shown adjustment => cases refreshes; exact ⟨some adjustment, rfl⟩
  | _ => cases refreshes

theorem display_refresh (g : Group σ) (display : δ) (policy : π) (visible : Bool)
    (adjustment : Option Int32) :
    (g.refresh display policy visible adjustment).result.display =
      if g.hidden = visible then Display.requestLayout display else display :=
  congrArg Refreshed.display (g.refresh_eq display policy visible adjustment).1

variable [DiscreetPolicy π σ]

theorem internal_serve (g : Group σ) (display : δ) (policy : π) {request : Request σ}
    (stays : request.isExit = false) (rests : request.refresh? = none) :
    ∀ e ∈ (g.serve display policy request).emitted, e.isInternal = true := by
  have swept {s} {visit : s → σ → Emits Effect (σ × s)} {state : s} {closing : Event}
      (every : ∀ state member, ∀ e ∈ (visit state member).emitted, e.isInternal = true)
      (closes : closing.isFlip = false) :
      ∀ e ∈ (sweep visit state g.members).emitted ++ [.event closing], e.isInternal = true :=
    List.forall_mem_append.2 ⟨forall_sweep every state g.members, by
      simpa [Effect.isInternal] using closes⟩
  cases request with
  | add handle =>
    cases refusal : g.refusal? handle <;>
      simp [serve, add, refusal, report, Effect.isInternal, Event.isFlip]
  | remove id =>
    cases found : g.find? id <;>
      simp [serve, remove, found, report, Effect.isInternal, Event.isFlip]
  | hide hidden reason =>
    simpa [serve, hide, report] using swept (internal_hideVisit g.header hidden reason) rfl
  | send command synchronous =>
    simpa [serve, send, report] using swept (internal_commandVisit g.header command) rfl
  | reposition size synchronous =>
    simpa [serve, reposition, report] using swept (internal_offsetVisit g.header size) rfl
  | animate animation =>
    simpa [serve, animate, report] using swept (internal_animationVisit g.header animation) rfl
  | awaitsDrawing => simpa [serve] using g.internal_awaitsDrawing
  | edit id change => simp [serve]
  | exit => cases stays
  | setVisible visible => cases rests
  | restack visible adjustment => cases rests

theorem notices_refresh (g : Group σ) (display : δ) (policy : π) (visible : Bool)
    (adjustment : Option Int32) :
    let refreshed := g.refresh display policy visible adjustment
    refreshed.notices = (if g.hidden = visible then [.layout] else []) ∧
      refreshed.flips =
        (if g.hidden = visible then [⟨g.header, .visibility !visible⟩] else []) := by
  have swept (size : Size) (members : List σ) := Emits.silent_of_internal
    (forall_sweep (internal_refreshVisit g.header size visible adjustment) policy members)
  unfold refresh flipHidden
  split <;> simp [Ask.size, Ask.requestLayout, Call.notice?, Event.isFlip, swept]

/-- All that the outside of the group learns from a request: the display gets its notices, and of
flips only one is reported that did happen. -/
structure Signals (m : Moment σ) (display : δ) (served : Emits Effect (Served σ δ π)) : Prop where
  notices : served.notices = m.notices
  flips : served.flips =
    if m.flips then [⟨m.group.header, .visibility !m.group.hidden⟩] else []
  display : served.result.display = m.notices.foldl Display.heed display

theorem signals_serve (g : Group σ) (display : δ) (policy : π) (request : Request σ) :
    Signals ⟨g, request⟩ display (g.serve display policy request) := by
  cases refreshes : request.refresh? with
  | some visible =>
    obtain ⟨adjustment, same⟩ := g.serve_of_refresh? display policy refreshes
    obtain ⟨notices, flips⟩ := g.notices_refresh display policy visible adjustment
    have stays : request.isExit = false := by
      cases request with
      | exit => cases refreshes
      | _ => rfl
    have told : Moment.notices ⟨g, request⟩ = if g.hidden = visible then [.layout] else [] := by
      simp [Moment.notices, Moment.flips, refreshes, stays]
    rw [same]
    constructor
    · rw [told, Emits.notices_map, notices]
    · rw [Emits.flips_map, flips]
      by_cases flip : g.hidden = visible <;> simp [Moment.flips, refreshes, flip]
    · rw [told, Emits.result_map, display_refresh]
      split <;> rfl
  | none =>
    cases exits : request.isExit with
    | false =>
      obtain ⟨notices, flips⟩ :=
        Emits.silent_of_internal (g.internal_serve display policy exits refreshes)
      have told : Moment.notices ⟨g, request⟩ = [] := by
        simp [Moment.notices, Moment.flips, refreshes, exits]
      refine ⟨notices.trans told.symm, ?_, ?_⟩
      · simp [flips, Moment.flips, refreshes]
      · rw [told]
        cases request with
        | exit => cases exits
        | setVisible visible => cases refreshes
        | restack visible adjustment => cases refreshes
        | _ => rfl
    | true =>
      obtain rfl : request = .exit := by
        cases request with
        | exit => rfl
        | _ => cases exits
      cases gone : g.exiting <;> constructor <;>
        simp [serve, exit, gone, Ask.detach, Call.notice?, Moment.notices, Moment.flips,
          Request.isExit, Request.refresh?, Event.isFlip, Display.heed]

end Serving

end Group

namespace Host

variable [Surface σ] [Display δ] [ScrollPolicy π σ]

/-- What the display is told on an act. -/
def notices (h : Host σ δ π) : Act σ δ π → List Notice
  | .create _ token => [.attach token]
  | .request index request =>
    (h.groups[index]?).elim [] fun g => Moment.notices ⟨g, request⟩
  | _ => []

end Host

/-- An owner who tends the display keeps this of it. -/
def Act.Leaves (view : δ → α) : Act σ δ π → Prop
  | .tend change => ∀ d, view (change d) = view d
  | _ => True

/-- Each notice changes this part of the display in the same way, whatever else the display does. -/
def Display.Follows [Display δ] (view : δ → α) (next : α → Notice → α) : Prop :=
  ∀ (d : δ) (notice : Notice), view (Display.heed d notice) = next (view d) notice

namespace Host

variable [Surface σ] [Display δ] [ScrollPolicy π σ] [DiscreetPolicy π σ]

theorem notices_act (h : Host σ δ π) (a : Act σ δ π) : (h.act a).notices = h.notices a := by
  cases a with
  | create display token =>
    simp [act, notices, Group.create, Ask.attach, Call.notice?]
  | request index request =>
    cases here : h.groups[index]? with
    | none => simp [act, notices, here]
    | some g => simp [act, notices, here, (g.signals_serve h.display h.policy request).notices]
  | tend change => rfl
  | govern change => rfl

variable {view : δ → α} {next : α → Notice → α}

theorem view_act (follows : Display.Follows view next) (h : Host σ δ π) {a : Act σ δ π}
    (leaves : a.Leaves view) :
    view (h.act a).result.display = (h.act a).notices.foldl next (view h.display) := by
  have heeds (notices : List Notice) (d : δ) :
      view (notices.foldl Display.heed d) = notices.foldl next (view d) := by
    induction notices generalizing d with
    | nil => rfl
    | cons notice rest ih => rw [List.foldl_cons, List.foldl_cons, ih, follows]
  rw [notices_act]
  cases a with
  | create display token => exact follows h.display (.attach token)
  | request index request =>
    cases here : h.groups[index]? with
    | none => simp [act, notices, here]
    | some g =>
      have served := (g.signals_serve h.display h.policy request).display
      simp [act, notices, here, served, heeds]
  | tend change => exact leaves h.display
  | govern change => rfl

theorem view_run (follows : Display.Follows view next) (h : Host σ δ π) {acts : List (Act σ δ π)}
    (leaves : ∀ a ∈ acts, a.Leaves view) :
    view (h.run acts).result.display = (h.run acts).notices.foldl next (view h.display) := by
  induction acts generalizing h with
  | nil => rfl
  | cons a rest ih =>
    obtain ⟨now, later⟩ := List.forall_mem_cons.1 leaves
    rw [run, Emits.result_bind, Emits.notices_bind, List.foldl_append, ih _ later,
      view_act follows h now]

end Host

end Wallpaper
