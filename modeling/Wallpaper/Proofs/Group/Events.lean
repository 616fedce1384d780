import Mathlib.Data.List.Forall2
import Wallpaper.Group.Membership
import Wallpaper.Group.Visibility
import Wallpaper.Proofs.Host.Steady

/-! The events among the effects of an operation. Visits are what the broadcasts have in common:
each leaves the member its number and is reported by one event, so a sweep reports the members one
by one, the newest first. -/
namespace Wallpaper

/-- The group among all groups of all displays. -/
def Header.key (h : Header) : DisplayId × TokenId := (h.display, h.token)

def Effect.event? : Effect → Option Event
  | .call _ => none
  | .event e => some e

namespace Emits

def events (x : Emits Effect α) : List Event := x.emitted.filterMap Effect.event?

@[simp] theorem events_pure (a : α) : (pure a : Emits Effect α).events = [] := rfl

@[simp] theorem events_bind (first : Emits Effect α) (next : α → Emits Effect β) :
    (first >>= next).events = first.events ++ (next first.result).events := by
  simp [events]

@[simp] theorem events_map (f : α → β) (x : Emits Effect α) : (f <$> x).events = x.events := by
  simp [events]

end Emits

namespace Group

variable {σ δ π s : Type}

def key (g : Group σ) : DisplayId × TokenId := (g.display, g.token)

@[simp] theorem events_ask (x : Emits Call α) : (ask x).events = [] := by
  simp [ask, Emits.events, List.filterMap_map, Function.comp_def, Effect.event?]

@[simp] theorem events_report (header : Header) (detail : Detail) :
    (report header detail).events = [⟨header, detail⟩] := rfl

@[simp] theorem result_ask (x : Emits Call α) : (ask x).result = x.result := rfl

@[simp] theorem result_report (header : Header) (detail : Detail) :
    (report header detail).result = () := rfl

theorem forall_sweep {p : Effect → Prop} {visit : s → σ → Emits Effect (σ × s)}
    (every : ∀ state member, ∀ e ∈ (visit state member).emitted, p e) (state : s)
    (members : List σ) : ∀ e ∈ (sweep visit state members).emitted, p e := by
  induction members with
  | nil => simp [sweep]
  | cons member newer ih =>
    simp only [sweep, Emits.emitted_bind, Emits.emitted_pure, List.append_nil]
    exact List.forall_mem_append.2 ⟨ih, every _ member⟩

def ReportsVisit (header : Header) (operation : Operation) (id : SurfaceId) (e : Event) : Prop :=
  ∃ synchronous outcome, e = ⟨header, .dispatch operation id synchronous outcome⟩

/-- What a flip does before the members are visited. -/
def flipping (g : Group σ) (visible : Bool) : List Effect :=
  if g.hidden = visible then [.call .layout, .event ⟨g.header, .visibility !visible⟩] else []

/-- The display whose size the members are refreshed for. -/
def laidOut [Display δ] (g : Group σ) (d : δ) (visible : Bool) : δ :=
  if g.hidden = visible then Display.requestLayout d else d

theorem flipHidden_eq [Display δ] (g : Group σ) (d : δ) (visible : Bool) :
    g.flipHidden d visible =
      ⟨({ g with hidden := !visible }, g.laidOut d visible), g.flipping visible⟩ := by
  unfold flipHidden laidOut flipping
  split
  · rfl
  · rename_i still
    rw [← Bool.eq_not_of_ne still]
    rfl

section Visits

variable [Surface σ]

def refreshOperation (adjustment : Option Int32) : Operation :=
  if adjustment.isSome then .layers else .visibility

section Refresh

variable [Display δ] [ScrollPolicy π σ] (g : Group σ) (d : δ) (policy : π) (visible : Bool)
  (adjustment : Option Int32)

/-- The size of the display is read once, after the flip, and is the same for all members. -/
theorem refresh_eq :
    let refreshed := g.refresh d policy visible adjustment
    let size := Display.size (g.laidOut d visible)
    let swept := sweep (refreshVisit g.header size visible adjustment) policy g.members
    refreshed.result = ⟨{ g with members := swept.result.1, hidden := !visible, seq := g.seq + 1 },
        g.laidOut d visible, swept.result.2⟩ ∧
      refreshed.emitted = g.flipping visible ++ .call .size :: swept.emitted ++
        [.event ⟨g.header, .broadcast (refreshOperation adjustment)
          refreshed.result.group.reportedCount none 0⟩] := by
  intro refreshed size swept
  constructor
  · simp [refreshed, refresh, flipHidden_eq, Ask.size, swept, size]
  · simp [refreshed, refresh, flipHidden_eq, ask, Ask.size, report, refreshOperation, swept, size]

/-- A refresh is a sweep under one header, with a layout before it if the group is flipped. -/
theorem refresh_eq_sweep :
    let refreshed := g.refresh d policy visible adjustment
    ∃ size,
      let swept := sweep (refreshVisit g.header size visible adjustment) policy g.members
      refreshed.result.group =
        { g with members := swept.result.1, hidden := !visible, seq := g.seq + 1 } ∧
      refreshed.emitted =
        (if g.hidden = visible then [.call .layout, .event ⟨g.header, .visibility !visible⟩]
          else []) ++ .call .size :: swept.emitted ++
        [.event ⟨g.header, .broadcast (refreshOperation adjustment)
          refreshed.result.group.reportedCount none 0⟩] := by
  obtain ⟨result, emitted⟩ := g.refresh_eq d policy visible adjustment
  exact ⟨_, congrArg Refreshed.group result, emitted⟩

end Refresh

structure IsVisit (header : Header) (operation : Operation)
    (visit : s → σ → Emits Effect (σ × s)) : Prop where
  keeps_id (state : s) (member : σ) :
    Surface.id (visit state member).result.1 = Surface.id member
  reports (state : s) (member : σ) : ∃ e, (visit state member).events = [e] ∧
    ReportsVisit header operation (Surface.id member) e

namespace IsVisit

variable {header : Header} {operation : Operation} {visit : s → σ → Emits Effect (σ × s)}

theorem ids_sweep (v : IsVisit header operation visit) (state : s) (members : List σ) :
    (sweep visit state members).result.1.map Surface.id = members.map Surface.id :=
  map_sweep Surface.id visit v.keeps_id state members

/-- A sweep reports every member once, beginning with the newest. -/
theorem events_sweep (v : IsVisit header operation visit) (state : s) (members : List σ) :
    List.Forall₂ (ReportsVisit header operation) (members.map Surface.id).reverse
      (sweep visit state members).events := by
  induction members with
  | nil => exact .nil
  | cons member newer ih =>
    obtain ⟨e, one, reports⟩ :=
      v.reports (sweep visit state newer).result.2 member
    simp only [sweep, List.map_cons, List.reverse_cons, Emits.events_bind, Emits.events_pure,
      List.append_nil]
    rw [one]
    exact List.rel_append ih (.cons reports .nil)

end IsVisit

section Kept

variable {α : Type} {f : σ → α}

theorem map_modify (g : Group σ) (id : SurfaceId) (change : σ → σ)
    (keeps : ∀ s ∈ g.members, Surface.id s = id → f (change s) = f s) :
    (g.modify id change).members.map f = g.members.map f := by
  unfold modify
  generalize g.members = members at keeps
  induction members with
  | nil => rfl
  | cons member newer ih =>
    obtain ⟨keeps, keeps_newer⟩ := List.forall_mem_cons.1 keeps
    unfold modify.first
    split
    · rename_i this
      simp [keeps (eq_of_beq this)]
    · simpa using ih keeps_newer

theorem keeps_hideVisit (keeps : Surface.Keeps f) (header : Header) (hidden : Bool)
    (reason : String) (state : Unit) (member : σ) :
    f (hideVisit header hidden reason state member).result.1 = f member :=
  keeps.hide hidden reason member

theorem keeps_commandVisit (keeps : Surface.Keeps f) (header : Header) (command : Command)
    (p : Progress) (member : σ) :
    f (commandVisit header command p member).result.1 = f member := by
  have dispatched := keeps.dispatch command p.synchronous member
  unfold commandVisit
  simp only [Emits.result_bind, result_ask]
  split <;> exact dispatched

theorem keeps_offsetVisit [ScrollPolicy π σ] (keeps : Surface.Keeps f)
    (leaves : ScrollPolicy.Keeps π f) (header : Header) (display : Size) (state : π × Progress)
    (member : σ) : f (offsetVisit header display state member).result.1 = f member := by
  have updated := leaves state.1 member display state.2.synchronous
  cases changed :
      (ScrollPolicy.update state.1 member display state.2.synchronous).result.changed with
  | false => simpa [offsetVisit, changed, Ask.update] using updated
  | true =>
    simpa [offsetVisit, changed, Ask.update, Ask.placement, Ask.moveTo, keeps.moveTo,
      keeps.placement] using updated

theorem keeps_animationVisit (keeps : Surface.Keeps f) (header : Header) (animation : Animation)
    (state : Unit) (member : σ) :
    f (animationVisit header animation state member).result.1 = f member :=
  keeps.animate animation member

theorem keeps_refreshVisit [ScrollPolicy π σ] (keeps : Surface.Keeps f)
    (leaves : ScrollPolicy.Keeps π f) (header : Header) (size : Size) (visible : Bool)
    (adjustment : Option Int32) (policy : π) (member : σ) :
    f (refreshVisit header size visible adjustment policy member).result.1 = f member := by
  have updated := leaves policy member size false
  cases visible <;> cases adjustment <;>
    simp [refreshVisit, Ask.update, Ask.notifyVisible, Ask.shiftLayer, keeps.notifyVisible,
      keeps.shiftLayer, updated]

end Kept

variable [SteadySurface σ]

theorem isVisit_hideVisit (header : Header) (hidden : Bool) (reason : String) :
    IsVisit header .hide (hideVisit (σ := σ) header hidden reason) where
  keeps_id := keeps_hideVisit Surface.keeps_id header hidden reason
  reports _ member := ⟨_, rfl, false, .delivered, by simp [Ask.hide]⟩

theorem isVisit_commandVisit (header : Header) (command : Command) :
    IsVisit header .command (commandVisit (σ := σ) header command) where
  keeps_id := keeps_commandVisit Surface.keeps_id header command
  reports p member := by
    unfold commandVisit
    simp only [Emits.events_bind, events_ask, result_ask, List.nil_append]
    split
    · exact ⟨_, rfl, p.synchronous, .delivered, by simp [Ask.dispatch]⟩
    · rename_i error _
      exact ⟨_, rfl, p.synchronous, .failed error, by simp [Ask.dispatch]⟩

theorem isVisit_offsetVisit [ScrollPolicy π σ] [SteadyPolicy π σ] (header : Header)
    (display : Size) :
    IsVisit header .offsets (offsetVisit (σ := σ) (π := π) header display) where
  keeps_id := keeps_offsetVisit Surface.keeps_id ScrollPolicy.keeps_id header display
  reports state member := by
    cases changed :
        (ScrollPolicy.update state.1 member display state.2.synchronous).result.changed
    · exact ⟨_, by simp [offsetVisit, changed, Ask.update]; rfl, state.2.synchronous, .unchanged,
        by simp⟩
    · exact ⟨_, by simp [offsetVisit, changed, Ask.update]; rfl, state.2.synchronous, .delivered,
        by simp [Ask.placement, Ask.moveTo]⟩

theorem isVisit_animationVisit (header : Header) (animation : Animation) :
    IsVisit header .animation (animationVisit (σ := σ) header animation) where
  keeps_id := keeps_animationVisit Surface.keeps_id header animation
  reports _ member := ⟨_, rfl, false, .delivered, by simp [Ask.animate]⟩

theorem isVisit_refreshVisit [ScrollPolicy π σ] [SteadyPolicy π σ] (header : Header) (size : Size)
    (visible : Bool) (adjustment : Option Int32) :
    IsVisit header (refreshOperation adjustment)
      (refreshVisit (σ := σ) (π := π) header size visible adjustment) where
  keeps_id :=
    keeps_refreshVisit Surface.keeps_id ScrollPolicy.keeps_id header size visible adjustment
  reports policy member := by
    cases visible <;> cases adjustment <;>
      exact ⟨_, by simp [refreshVisit]; rfl, false, .delivered,
        by simp [refreshOperation, Ask.update, Ask.notifyVisible, Ask.shiftLayer]⟩

end Visits

end Group

end Wallpaper
