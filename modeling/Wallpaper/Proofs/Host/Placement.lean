import Mathlib.Data.List.Forall2
import Wallpaper.Proofs.Host.Run

/-! Where surfaces stand. A new offset shows once its surface was moved to its new place, or once
the display was laid out again. Members that are scrolled with the display are moved at once; on the
way in a group leaves it to the layout that it asks for, and asks for none if it was in already. -/
namespace Wallpaper

open Simulation (Pane)

variable {σ δ α s : Type}

namespace Simulation.Pane

def place (pane : Pane) : Point := pane.frame.shift pane.scroll

def ScrolledBy (pane : Pane) (effects : List Effect) : Prop :=
  ∃ synchronous, .call (.scroll pane.id pane.scroll synchronous) ∈ effects

/-- The surface was moved, and stands where it belongs. -/
def MovedBy (pane : Pane) (effects : List Effect) : Prop :=
  .call (.move pane.id pane.place) ∈ effects ∧ pane.shown = pane.place

@[simp] theorem surface_id (pane : Pane) : Surface.id pane = pane.id := rfl

@[simp] theorem surface_placement (pane : Pane) : Surface.placement pane = (pane.place, pane) := rfl

@[simp] theorem surface_moveTo (pane : Pane) (position : Point) :
    Surface.moveTo position pane = { pane with shown := position } := rfl

@[simp] theorem surface_notifyVisible (pane : Pane) (visible : Bool) :
    Surface.notifyVisible visible pane = { pane with visible, drawn := pane.drawn && visible } :=
  rfl

@[simp] theorem surface_shiftLayer (pane : Pane) (adjustment : Int32) :
    Surface.shiftLayer adjustment pane = { pane with layer := pane.layer + adjustment } := rfl

theorem keeps_scroll : Surface.Keeps Pane.scroll where
  hide _ _ _ := rfl
  notifyVisible _ _ := rfl
  dispatch _ _ _ := rfl
  placement _ := rfl
  moveTo _ _ := rfl
  animate _ _ := rfl
  shiftLayer _ _ := rfl

theorem update_cases (pane : Pane) (p : Parallax) (display : Size) (synchronous : Bool) :
    ScrollPolicy.update p pane display synchronous = pure ⟨false, p, pane⟩ ∨
    ∃ scroll, ScrollPolicy.update p pane display synchronous =
      ⟨⟨true, p, { pane with scroll }⟩, [.scroll pane.id scroll synchronous]⟩ := by
  rcases Parallax.update_cases p pane display synchronous with ⟨-, stays⟩ | ⟨-, scrolls⟩
  · exact .inl stays
  · exact .inr ⟨_, scrolls⟩

instance (pane : Pane) (effects : List Effect) : Decidable (pane.MovedBy effects) :=
  inferInstanceAs (Decidable (_ ∧ _))

theorem ScrolledBy.mono {pane : Pane} {part all : List Effect} (scrolled : pane.ScrolledBy part)
    (within : part ⊆ all) : pane.ScrolledBy all := by
  obtain ⟨synchronous, call⟩ := scrolled
  exact ⟨synchronous, within call⟩

theorem MovedBy.mono {pane : Pane} {part all : List Effect} (moved : pane.MovedBy part)
    (within : part ⊆ all) : pane.MovedBy all :=
  ⟨within moved.1, moved.2⟩

/-- A new offset is told to the client. Unless the group is being shown, the surface is moved at
once. -/
def Heeds (shows : Bool) (before after : Pane) (effects : List Effect) : Prop :=
  after.scroll ≠ before.scroll →
    after.ScrolledBy effects ∧ (after.MovedBy effects ∨ shows = true)

theorem Heeds.mono {shows : Bool} {before after : Pane} {part all : List Effect}
    (heeds : Heeds shows before after part) (within : part ⊆ all) :
    Heeds shows before after all := by
  intro changed
  obtain ⟨scrolled, moved⟩ := heeds changed
  exact ⟨scrolled.mono within, moved.imp_left fun moved => moved.mono within⟩

theorem heeds_of_same {shows : Bool} {before after : List Pane} (effects : List Effect)
    (same : after.map Pane.scroll = before.map Pane.scroll) :
    List.Forall₂ (Heeds shows · · effects) before after := by
  have equal : List.Forall₂ (fun b a => Pane.scroll b = Pane.scroll a) before after := by
    rw [← List.forall₂_map_right_iff, ← List.forall₂_map_left_iff, same]
    exact List.forall₂_refl _
  exact equal.imp fun b a same changed => absurd same.symm changed

end Simulation.Pane

/-- Surfaces are moved by this, or by what it asks for. -/
def Effect.places : Effect → Bool
  | .call .layout => true
  | .call (.move ..) => true
  | _ => false

namespace Request

def shows : Request σ → Bool
  | .setVisible visible => visible
  | .restack visible _ => visible
  | _ => false

/-- The members after the request, as they are before it. -/
def staying [Surface σ] (g : Group σ) : Request σ → List σ
  | .add handle => if (g.refusal? handle).isNone then g.members ++ [handle] else g.members
  | .remove id => g.members.eraseP (Surface.id · == id)
  | _ => g.members

end Request

namespace Group

theorem forall₂_sweep {r : σ → σ → List Effect → Prop}
    (mono : ∀ {before after part all}, r before after part → part ⊆ all → r before after all)
    {visit : s → σ → Emits Effect (σ × s)}
    (every : ∀ state member, r member (visit state member).result.1 (visit state member).emitted)
    (state : s) (members : List σ) {all : List Effect}
    (within : (sweep visit state members).emitted ⊆ all) :
    List.Forall₂ (r · · all) members (sweep visit state members).result.1 := by
  induction members with
  | nil => exact .nil
  | cons member newer ih =>
    simp only [sweep, Emits.emitted_bind, Emits.emitted_pure, List.append_nil,
      List.append_subset] at within
    exact .cons (mono (every _ member) within.2) (ih within.1)

theorem heeds_offsetVisit (header : Header) (display : Size) (state : Parallax × Progress)
    (member : Pane) :
    let visit := offsetVisit header display state member
    Pane.Heeds false member visit.result.1 visit.emitted := by
  intro visit changed
  rcases member.update_cases state.1 display state.2.synchronous with stays | ⟨scroll, scrolls⟩
  · simp [visit, offsetVisit, Ask.update, stays] at changed
  · have told : .call (.scroll member.id scroll state.2.synchronous) ∈ visit.emitted := by
      simp [visit, offsetVisit, Ask.update, scrolls, ask]
    have moved : .call (.move member.id (member.frame.shift scroll)) ∈ visit.emitted := by
      simp [visit, offsetVisit, Ask.update, scrolls, ask, Ask.placement, Ask.moveTo, Pane.place]
    have result : visit.result.1 = { member with scroll, shown := member.frame.shift scroll } := by
      simp [visit, offsetVisit, Ask.update, scrolls, Ask.placement, Ask.moveTo, Pane.place]
    rw [result]
    exact ⟨⟨_, told⟩, .inl ⟨moved, rfl⟩⟩

theorem heeds_refreshVisit (header : Header) (size : Size) (visible : Bool)
    (adjustment : Option Int32) (policy : Parallax) (member : Pane) :
    let visit := refreshVisit header size visible adjustment policy member
    Pane.Heeds visible member visit.result.1 visit.emitted := by
  intro visit changed
  cases visible with
  | false =>
    cases adjustment <;>
      simp [visit, refreshVisit, Ask.notifyVisible, Ask.shiftLayer] at changed
  | true =>
    rcases member.update_cases policy size false with stays | ⟨scroll, scrolls⟩
    · cases adjustment <;>
        simp [visit, refreshVisit, Ask.notifyVisible, Ask.shiftLayer, Ask.update, stays] at changed
    · have told : .call (.scroll member.id scroll false) ∈ visit.emitted := by
        cases adjustment <;> simp [visit, refreshVisit, Ask.update, scrolls, ask]
      have result : visit.result.1.id = member.id ∧ visit.result.1.scroll = scroll := by
        cases adjustment <;>
          simp [visit, refreshVisit, Ask.update, Ask.notifyVisible, Ask.shiftLayer, scrolls]
      exact ⟨⟨_, result.1 ▸ result.2 ▸ told⟩, .inr rfl⟩

theorem places_refreshVisit (header : Header) (size : Size) (visible : Bool)
    (adjustment : Option Int32) (policy : Parallax) (member : Pane) :
    ∀ e ∈ (refreshVisit header size visible adjustment policy member).emitted,
      e.places = false := by
  rcases member.update_cases policy size false with stays | ⟨scroll, scrolls⟩
  · cases visible <;> cases adjustment <;>
      simp [refreshVisit, Ask.update, Ask.notifyVisible, Ask.shiftLayer, stays, ask, report,
        Effect.places]
  · cases visible <;> cases adjustment <;>
      simp [refreshVisit, Ask.update, Ask.notifyVisible, Ask.shiftLayer, scrolls, ask, report,
        Effect.places]

variable [Display δ]

theorem heeds_refresh (g : Group Pane) (display : δ) (policy : Parallax) (visible : Bool)
    (adjustment : Option Int32) :
    let refreshed := g.refresh display policy visible adjustment
    List.Forall₂ (Pane.Heeds visible · · refreshed.emitted) g.members
      refreshed.result.group.members := by
  intro refreshed
  obtain ⟨size, group, emitted⟩ := g.refresh_eq_sweep display policy visible adjustment
  rw [group]
  refine forall₂_sweep (r := Pane.Heeds visible) (fun heeds within => heeds.mono within)
    (heeds_refreshVisit g.header size visible adjustment) policy g.members ?_
  intro e mem
  simp [refreshed, emitted, mem]

theorem heeds_serve (g : Group Pane) (display : δ) (policy : Parallax) {request : Request Pane}
    (operation : request.edit? = none) :
    let served := g.serve display policy request
    List.Forall₂ (Pane.Heeds request.shows · · served.emitted) (request.staying g)
      served.result.group.members := by
  intro served
  cases request with
  | add handle =>
    apply Pane.heeds_of_same
    cases refusal : g.refusal? handle <;> simp [served, serve, add, refusal, Request.staying]
  | remove id =>
    apply Pane.heeds_of_same
    cases found : g.find? id with
    | none =>
      have nobody : g.members.eraseP (·.id == id) = g.members :=
        List.eraseP_of_forall_not (by simpa [find?] using found)
      simp [served, serve, remove, found, Request.staying, nobody]
    | some handle => simp [served, serve, remove, found, Request.staying]
  | exit =>
    apply Pane.heeds_of_same
    cases gone : g.exiting <;> simp [served, serve, exit, gone, Request.staying]
  | hide hidden reason =>
    have kept := keeps_hideVisit Pane.keeps_scroll g.header hidden reason
    exact Pane.heeds_of_same _ (map_sweep _ _ kept _ _)
  | send command synchronous =>
    have kept := keeps_commandVisit Pane.keeps_scroll g.header command
    exact Pane.heeds_of_same _ (map_sweep _ _ kept _ _)
  | reposition size synchronous =>
    let swept := sweep (offsetVisit g.header size) (policy, .start synchronous) g.members
    have within : swept.emitted ⊆ served.emitted := by
      intro e mem
      simp [served, serve, reposition, swept, mem]
    exact forall₂_sweep (r := Pane.Heeds false) (fun heeds within => heeds.mono within)
      (heeds_offsetVisit g.header size) (policy, .start synchronous) g.members within
  | setVisible visible =>
    simpa [served, serve, setVisible, Request.shows, Request.staying] using
      g.heeds_refresh display policy visible none
  | restack visible adjustment =>
    simpa [served, serve, restack, Request.shows, Request.staying] using
      g.heeds_refresh display policy visible (some adjustment)
  | animate animation =>
    have kept := keeps_animationVisit Pane.keeps_scroll g.header animation
    exact Pane.heeds_of_same _ (map_sweep _ _ kept _ _)
  | awaitsDrawing => exact Pane.heeds_of_same _ rfl
  | edit id change => cases operation

theorem serve_shows (g : Group Pane) (display : δ) (policy : Parallax) {request : Request Pane}
    (shows : request.shows = true) : ∃ adjustment,
    (g.serve display policy request).emitted =
      (g.refresh display policy true adjustment).emitted := by
  cases request with
  | setVisible visible =>
    obtain rfl : visible = true := shows
    exact ⟨none, by simp [serve, setVisible]⟩
  | restack visible adjustment =>
    obtain rfl : visible = true := shows
    exact ⟨some adjustment, by simp [serve, restack]⟩
  | _ => cases shows

/-- What becomes of the offsets that a request changes: the client is told, and the surface is moved
or a layout asked for, except that a group which is shown but was not hidden does neither. -/
structure HeedsOffsets (g : Group Pane) (request : Request Pane)
    (served : Emits Effect (Served Pane δ Parallax)) : Prop where
  told : List.Forall₂ (fun before after => after.scroll ≠ before.scroll →
      after.ScrolledBy served.emitted)
    (request.staying g) served.result.group.members
  placed : (request.shows = true → g.hidden = true) →
    List.Forall₂ (fun before after => after.scroll ≠ before.scroll →
        after.MovedBy served.emitted ∨ .call .layout ∈ served.emitted)
      (request.staying g) served.result.group.members
  still : request.shows = true → g.hidden = false → ∀ e ∈ served.emitted, e.places = false

theorem heedsOffsets_serve (g : Group Pane) (display : δ) (policy : Parallax)
    {request : Request Pane} (operation : request.edit? = none) :
    g.HeedsOffsets request (g.serve display policy request) := by
  have heeds := g.heeds_serve display policy operation
  constructor
  · exact heeds.imp fun before after heeds changed => (heeds changed).1
  · intro hidden
    refine heeds.imp fun before after heeds changed => (heeds changed).2.imp_right fun shows => ?_
    obtain ⟨adjustment, same⟩ := g.serve_shows display policy shows
    obtain ⟨size, -, emitted⟩ := g.refresh_eq_sweep display policy true adjustment
    simp [same, emitted, hidden shows]
  · intro shows seen
    obtain ⟨adjustment, same⟩ := g.serve_shows display policy shows
    obtain ⟨size, -, emitted⟩ := g.refresh_eq_sweep display policy true adjustment
    have swept := forall_sweep (places_refreshVisit g.header size true adjustment) policy g.members
    rw [same, emitted, if_neg (by simp [seen])]
    exact List.forall_mem_append.2
      ⟨List.forall_mem_cons.2 ⟨rfl, swept⟩, List.forall_mem_singleton.2 rfl⟩

def centered : Host Pane Simulation.Screen Parallax :=
  ((Host.start ⟨⟨1080, 1920⟩, none, 0, []⟩ (Parallax.ofConfig .centered)).run
    [.create ⟨0⟩ ⟨1⟩, .request 0 (.add { id := ⟨7⟩, size := ⟨2160, 1920⟩ })]).result

theorem heedsOffsets_serve_centered : ∃ g ∈ centered.groups,
    let request : Request Pane := .reposition ⟨1080, 1920⟩ true
    let served := g.serve centered.display centered.policy request
    request.edit? = none ∧
      served.result.group.members.map Pane.scroll ≠ g.members.map Pane.scroll ∧
      g.HeedsOffsets request served := by
  have scrolls : ∃ g ∈ centered.groups,
      (g.serve centered.display centered.policy
        (.reposition ⟨1080, 1920⟩ true)).result.group.members.map Pane.scroll ≠
        g.members.map Pane.scroll := by
    decide +kernel
  obtain ⟨g, there, changed⟩ := scrolls
  exact ⟨g, there, rfl, changed, heedsOffsets_serve g _ _ rfl⟩

/-- Shown once more, the group scrolls its wallpaper and leaves it where it stands. -/
theorem exists_unplaced_centered : ∃ g ∈ centered.groups,
    let request : Request Pane := .setVisible true
    let served := g.serve centered.display centered.policy request
    ¬ List.Forall₂ (fun before after => after.scroll ≠ before.scroll →
        after.MovedBy served.emitted ∨ .call .layout ∈ served.emitted)
      (request.staying g) served.result.group.members := by
  decide +kernel

end Group

end Wallpaper
