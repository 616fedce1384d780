import Wallpaper.Proofs.Host.Showing
import Wallpaper.Proofs.Sink.Delivery

/-! How a group is stacked. Restacking does what showing or hiding does, and one thing more at every
member: as soon as its client was told, its layer is shifted. Nobody looks at a layer, so all the
rest comes out as it does without the shifts. To shift by zero is a shift as well. -/
namespace Wallpaper

open Simulation (Pane Policy)

variable {σ δ s α β ε η : Type}

namespace Emits

/-- The same computation, with every effect told in another way. -/
def retell (tell : ε → List η) (x : Emits ε α) : Emits η α := ⟨x.result, x.emitted.flatMap tell⟩

@[simp] theorem result_retell (tell : ε → List η) (x : Emits ε α) :
    (x.retell tell).result = x.result := rfl

@[simp] theorem emitted_retell (tell : ε → List η) (x : Emits ε α) :
    (x.retell tell).emitted = x.emitted.flatMap tell := rfl

theorem retell_bind (tell : ε → List η) (first : Emits ε α) (next : α → Emits ε β) :
    (first >>= next).retell tell = first.retell tell >>= fun a => (next a).retell tell :=
  congrArg (Emits.mk _) List.flatMap_append

theorem retell_map (tell : ε → List η) (f : α → β) (x : Emits ε α) :
    (f <$> x).retell tell = f <$> x.retell tell := by
  simp only [map_eq_pure_bind, retell_bind]
  rfl

end Emits

def Call.shiftsLayer : Call → Bool
  | .layer .. => true
  | _ => false

namespace Operation

def stacked : Operation → Operation
  | visibility => layers
  | other => other

def unstacked : Operation → Operation
  | layers => visibility
  | other => other

end Operation

def Event.relabel (f : Operation → Operation) (e : Event) : Event :=
  { e with detail := match e.detail with
    | .broadcast operation members synchronous failures =>
      .broadcast (f operation) members synchronous failures
    | .dispatch operation surface synchronous outcome =>
      .dispatch (f operation) surface synchronous outcome
    | other => other }

namespace Effect

/-- The effect as it is when layers are shifted as well. -/
def stacked (adjustment : Int32) : Effect → List Effect
  | .call (.visible surface visible) =>
    [.call (.visible surface visible), .call (.layer surface adjustment)]
  | .call other => [.call other]
  | .event e => [.event (e.relabel Operation.stacked)]

/-- No layer is shifted by this, and no restacking reported. -/
def Unstacked : Effect → Prop
  | .call c => c.shiftsLayer = false
  | .event e => (e.relabel Operation.stacked).relabel Operation.unstacked = e

variable (adjustment : Int32) {effects : List Effect}

theorem calls_stacked (unstacked : ∀ e ∈ effects, e.Unstacked) :
    ((effects.flatMap (stacked adjustment)).filterMap call?).filter (!·.shiftsLayer) =
      effects.filterMap call? := by
  induction effects with
  | nil => rfl
  | cons e rest ih =>
    obtain ⟨here, later⟩ := List.forall_mem_cons.1 unstacked
    cases e with
    | event e => simpa [stacked, List.filterMap_cons] using ih later
    | call c =>
      have kept : c.shiftsLayer = false := here
      cases c <;> simp_all [stacked, Call.shiftsLayer]

theorem events_stacked (unstacked : ∀ e ∈ effects, e.Unstacked) :
    ((effects.flatMap (stacked adjustment)).filterMap event?).map
        (Event.relabel Operation.unstacked) = effects.filterMap event? := by
  induction effects with
  | nil => rfl
  | cons e rest ih =>
    obtain ⟨here, later⟩ := List.forall_mem_cons.1 unstacked
    cases e with
    | event e => simpa [stacked, event?] using ⟨here, ih later⟩
    | call c => cases c <;> simpa [stacked, event?, List.filterMap_cons] using ih later

end Effect

namespace Simulation

/-- A policy calls nothing but the offset that it changes. -/
theorem emitted_update (policy : Policy) (pane : Pane) (display : Size) (synchronous : Bool) :
    (ScrollPolicy.update policy pane display synchronous).emitted = [] ∨
    ∃ offset, (ScrollPolicy.update policy pane display synchronous).emitted =
      [.scroll pane.id offset synchronous] := by
  cases policy with
  | scripted changed => exact .inl rfl
  | parallax state =>
    rcases state.update_cases pane display synchronous with ⟨-, stays⟩ | ⟨-, scrolls⟩
    · exact .inl (by simp [ScrollPolicy.update, stays])
    · exact .inr ⟨_, by simp [ScrollPolicy.update, scrolls, Ask.scrollTo]; rfl⟩

def Pane.raised (adjustment : Int32) (pane : Pane) : Pane :=
  { pane with layer := pane.layer + adjustment }

end Simulation

def Group.raised (adjustment : Int32) (g : Group Pane) : Group Pane :=
  { g with members := g.members.map (Pane.raised adjustment) }

def Refreshed.raised (adjustment : Int32) (r : Refreshed Pane δ Policy) :
    Refreshed Pane δ Policy :=
  { r with group := r.group.raised adjustment }

namespace Group

theorem sweep_retell {visit other : s → σ → Emits Effect (σ × s)} {f : σ → σ}
    {tell : Effect → List Effect}
    (alike : ∀ state member, other state member =
      Prod.map f id <$> (visit state member).retell tell) (state : s) (members : List σ) :
    sweep other state members =
      Prod.map (List.map f) id <$> (sweep visit state members).retell tell := by
  induction members with
  | nil => rfl
  | cons member newer ih => simp [sweep, ih, alike, Emits.retell_bind, Emits.retell_map]

theorem filter_calls_sweep {visit : s → σ → Emits Effect (σ × s)} {p : Call → Bool}
    {picked : σ → Call}
    (every : ∀ state member, (visit state member).calls.filter p = [picked member]) (state : s)
    (members : List σ) :
    (sweep visit state members).calls.filter p = members.reverse.map picked := by
  induction members with
  | nil => rfl
  | cons member newer ih => simp [sweep, ih, every]

section Visits

variable (header : Header) (size : Size) (visible : Bool) (adjustment : Int32) (policy : Policy)
  (pane : Pane)

/-- The calls before the client of a member is told. -/
def consultation : List Call :=
  if visible then (Consulted.mk policy pane false).asking size else []

theorem mem_consultation {c : Call} (h : c ∈ consultation size visible policy pane) :
    (∃ offset, c = .scroll pane.id offset false) ∨
      ∃ changed, c = .policy pane.id size false changed := by
  cases visible with
  | false => cases h
  | true =>
    rcases List.mem_append.1 h with scrolls | asks
    · rcases Simulation.emitted_update policy pane size false with silent | ⟨offset, only⟩
      · exact absurd (silent ▸ scrolls) (List.not_mem_nil)
      · exact .inl ⟨offset, List.mem_singleton.1 (only ▸ scrolls)⟩
    · exact .inr ⟨_, List.mem_singleton.1 asks⟩

theorem shiftsLayer_of_mem_consultation {c : Call}
    (h : c ∈ consultation size visible policy pane) : c.shiftsLayer = false := by
  rcases mem_consultation size visible policy pane h with ⟨_, rfl⟩ | ⟨_, rfl⟩ <;> rfl

theorem stacked_of_mem_consultation {c : Call} (h : c ∈ consultation size visible policy pane) :
    Effect.stacked adjustment (.call c) = [.call c] := by
  rcases mem_consultation size visible policy pane h with ⟨_, rfl⟩ | ⟨_, rfl⟩ <;> rfl

theorem emitted_refreshVisit (adjustment : Option Int32) :
    (refreshVisit header size visible adjustment policy pane).emitted =
      (consultation size visible policy pane).map .call ++ .call (.visible pane.id visible) ::
        (adjustment.map fun shift => .call (.layer pane.id shift)).toList ++
          [.event ⟨header, .dispatch (refreshOperation adjustment) pane.id false .delivered⟩] := by
  obtain ⟨scroll, surface⟩ := Simulation.surface_update policy pane size false
  cases visible <;> cases adjustment <;>
    simp [refreshVisit, Ask.update, Ask.notifyVisible, Ask.shiftLayer, ask, report, consultation,
      Consulted.asking, Consulted.answer, Consulted.changed, refreshOperation, surface]

theorem refreshVisit_retell :
    refreshVisit header size visible (some adjustment) policy pane =
      Prod.map (Pane.raised adjustment) id <$>
        (refreshVisit header size visible none policy pane).retell (Effect.stacked adjustment) := by
  have kept : ((consultation size visible policy pane).map .call).flatMap
      (Effect.stacked adjustment) = (consultation size visible policy pane).map .call := by
    rw [List.flatMap_map, List.map_eq_flatMap]
    exact List.flatMap_congr fun c h => stacked_of_mem_consultation _ _ _ _ _ h
  apply Emits.ext
  · cases visible <;> rfl
  · rw [Emits.emitted_map, Emits.emitted_retell, emitted_refreshVisit, emitted_refreshVisit,
      List.flatMap_append, List.flatMap_append, kept]
    rfl

theorem unstacked_refreshVisit :
    ∀ e ∈ (refreshVisit header size visible none policy pane).emitted, e.Unstacked := by
  rw [emitted_refreshVisit]
  refine List.forall_mem_append.2 ⟨List.forall_mem_append.2 ⟨?_, ?_⟩, ?_⟩
  · exact List.forall_mem_map.2 fun c h => shiftsLayer_of_mem_consultation _ _ _ _ h
  · exact List.forall_mem_singleton.2 rfl
  · exact List.forall_mem_singleton.2 rfl

theorem shifts_refreshVisit :
    (refreshVisit header size visible (some adjustment) policy pane).calls.filter
      Call.shiftsLayer = [.layer pane.id adjustment] := by
  have none_before : (consultation size visible policy pane).filter Call.shiftsLayer = [] := by
    refine List.filter_eq_nil_iff.2 fun c h => ?_
    simp [shiftsLayer_of_mem_consultation size visible policy pane h]
  have calls : ((consultation size visible policy pane).map Effect.call).filterMap Effect.call? =
      consultation size visible policy pane := by
    rw [List.filterMap_map]
    exact List.filterMap_some
  rw [Emits.calls, emitted_refreshVisit, List.filterMap_append, List.filterMap_append, calls,
    List.filter_append, List.filter_append, none_before]
  rfl

end Visits

theorem stacked_flipping (g : Group σ) (visible : Bool) (adjustment : Int32) :
    (g.flipping visible).flatMap (Effect.stacked adjustment) = g.flipping visible := by
  unfold flipping
  split <;> rfl

section Stacking

variable [Display δ] (g : Group Pane) (d : δ) (policy : Policy) (visible : Bool)
  (adjustment : Int32)

theorem restack_eq_retell :
    g.restack d policy visible adjustment =
      Refreshed.raised adjustment <$>
        (g.setVisible d policy visible).retell (Effect.stacked adjustment) := by
  have swept := sweep_retell (refreshVisit_retell g.header (Display.size (g.laidOut d visible))
    visible adjustment) policy g.members
  obtain ⟨shown, told⟩ := g.refresh_eq d policy visible none
  obtain ⟨stacked, retold⟩ := g.refresh_eq d policy visible (some adjustment)
  rw [swept] at stacked retold
  have counted : (g.refresh d policy visible (some adjustment)).result.group.reportedCount =
      (g.refresh d policy visible none).result.group.reportedCount := by
    apply reportedCount_of_length
    rw [shown, stacked]
    exact List.length_map _
  apply Emits.ext
  · exact stacked.trans (congrArg (Refreshed.raised adjustment) shown.symm)
  · rw [restack, retold, counted]
    simp [setVisible, told, stacked_flipping, Effect.stacked, Event.relabel, refreshOperation,
      Operation.stacked]

theorem unstacked_setVisible : ∀ e ∈ (g.setVisible d policy visible).emitted, e.Unstacked := by
  have swept := forall_sweep
    (unstacked_refreshVisit g.header (g.laidOutSize d visible) visible) policy g.members
  have flipped : ∀ e ∈ g.flipping visible, e.Unstacked := by
    unfold flipping
    split <;> simp [Effect.Unstacked, Call.shiftsLayer, Event.relabel]
  rw [setVisible, (g.refresh_eq d policy visible none).2]
  refine List.forall_mem_append.2 ⟨List.forall_mem_append.2 ⟨flipped, ?_⟩, ?_⟩
  · exact List.forall_mem_cons.2 ⟨rfl, swept⟩
  · exact List.forall_mem_singleton.2 rfl

/-- What comes of restacking, next to what comes of showing or hiding. The shift of a layer stands
right behind the call that tells the client of this member. -/
structure Stacks (g : Group Pane) (adjustment : Int32)
    (shown stacked : Emits Effect (Refreshed Pane δ Policy)) : Prop where
  result : stacked.result = shown.result.raised adjustment
  emitted : stacked.emitted = shown.emitted.flatMap (Effect.stacked adjustment)
  calls : stacked.calls.filter (!·.shiftsLayer) = shown.calls
  shifts : stacked.calls.filter Call.shiftsLayer = g.ids.reverse.map (.layer · adjustment)
  events : stacked.events.map (Event.relabel .unstacked) = shown.events

theorem calls_refresh (adjustment : Option Int32) :
    let size := Display.size (g.laidOut d visible)
    (g.refresh d policy visible adjustment).calls =
      (if g.hidden = visible then [.layout] else []) ++ .size ::
        (sweep (refreshVisit g.header size visible adjustment) policy g.members).calls := by
  intro size
  obtain ⟨-, emitted⟩ := g.refresh_eq d policy visible adjustment
  rw [Emits.calls, emitted, flipping]
  split <;> simp [Emits.calls, size, List.filterMap_cons]

theorem shifts_restack : (g.restack d policy visible adjustment).calls.filter Call.shiftsLayer =
    g.ids.reverse.map (.layer · adjustment) := by
  have swept := filter_calls_sweep (shifts_refreshVisit g.header
    (Display.size (g.laidOut d visible)) visible adjustment) policy g.members
  have flipped : (if g.hidden = visible then [Call.layout] else []).filter Call.shiftsLayer =
      [] := by
    split <;> rfl
  rw [restack, calls_refresh, List.filter_append, flipped, List.nil_append,
    List.filter_cons_of_neg (by simp [Call.shiftsLayer]), swept]
  simp [ids, Function.comp_def]

/-- Restacking is showing or hiding with every layer shifted once, and with another name in the
events; nothing else tells the two apart. -/
theorem stacks_as_shown :
    g.Stacks adjustment (g.setVisible d policy visible)
      (g.restack d policy visible adjustment) := by
  have unstacked := g.unstacked_setVisible d policy visible
  have retold := g.restack_eq_retell d policy visible adjustment
  have emitted : (g.restack d policy visible adjustment).emitted =
      (g.setVisible d policy visible).emitted.flatMap (Effect.stacked adjustment) := by
    simp [retold]
  constructor
  · rw [retold]
    rfl
  · exact emitted
  · rw [Emits.calls, emitted]
    exact Effect.calls_stacked adjustment unstacked
  · exact g.shifts_restack d policy visible adjustment
  · rw [Emits.events, emitted]
    exact Effect.events_stacked adjustment unstacked

example : ({ id := ⟨1⟩, layer := 2147483647 } : Pane).raised 1 =
    { id := ⟨1⟩, layer := -2147483648 } := by decide

end Stacking

end Group

end Wallpaper
