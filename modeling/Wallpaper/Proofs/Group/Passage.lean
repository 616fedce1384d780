import Wallpaper.Proofs.Group.Life
import Wallpaper.Proofs.Group.Replay

/-! Coming and going. A group admits whoever asks as long as it is not exiting and does not have the
number already, and lets go whom it has; no other request changes who is in it. A handle that is
handed in is in the group afterwards or back with its owner. -/
namespace Wallpaper

variable {σ δ π α : Type}

inductive Passage where
  | entered (id : SurfaceId)
  | left (id : SurfaceId)
deriving DecidableEq

namespace Passage

/-- Those who entered and did not leave afterwards, in the order in which they entered. -/
def present : List Passage → List SurfaceId
  | [] => []
  | .entered id :: later => if .left id ∈ later then present later else id :: present later
  | .left _ :: later => present later

def apply (ids : List SurfaceId) : Passage → List SurfaceId
  | .entered id => ids ++ [id]
  | .left id => ids.erase id

theorem present_entered (history : List Passage) (id : SurfaceId) :
    present (history ++ [.entered id]) = present history ++ [id] := by
  induction history with
  | nil => rfl
  | cons passage later ih =>
    cases passage with
    | entered other =>
      by_cases gone : .left other ∈ later <;> simp [present, ih, gone]
    | left other => exact ih

theorem present_left (history : List Passage) (id : SurfaceId) :
    present (history ++ [.left id]) = (present history).filter (· != id) := by
  induction history with
  | nil => rfl
  | cons passage later ih =>
    cases passage with
    | entered other =>
      by_cases gone : .left other ∈ later
      · simp [present, ih, gone]
      · by_cases same : other = id
        · subst same
          simp [present, ih, gone]
        · simp [present, ih, gone, same]
    | left other => exact ih

theorem present_concat {history : List Passage} (distinct : (present history).Nodup)
    (passage : Passage) : present (history ++ [passage]) = passage.apply (present history) := by
  cases passage with
  | entered id => exact present_entered history id
  | left id => rw [present_left, apply, distinct.erase_eq_filter]

end Passage

namespace Request

def isExit : Request σ → Bool
  | .exit => true
  | _ => false

def IsPassage : Request σ → Prop
  | .add _ => True
  | .remove _ => True
  | _ => False

end Request

/-- An owner who reaches into the group keeps this of the member. -/
def Moment.Keeps [Surface σ] (f : σ → α) (m : Moment σ) : Prop :=
  ∀ edit ∈ m.request.edit?, ∀ s ∈ m.group.members, Surface.id s = edit.1 → f (edit.2 s) = f s

instance [Surface σ] [DecidableEq α] (f : σ → α) (m : Moment σ) : Decidable (m.Keeps f) :=
  inferInstanceAs (Decidable (∀ edit ∈ m.request.edit?, ∀ s ∈ m.group.members, _ → _))

/-- Whether somebody entered or left, as the answer to the request tells. -/
def Moment.passage? [Surface σ] (m : Moment σ) : Option Passage :=
  match m.request with
  | .add handle =>
    if (m.group.add handle).result.1.isNone then some (.entered (Surface.id handle)) else none
  | .remove id => (m.group.remove id).result.1.map fun _ => .left id
  | _ => none

namespace Group

variable [Surface σ]

theorem contains_iff (g : Group σ) (id : SurfaceId) : g.contains id = true ↔ id ∈ g.ids := by
  simp [contains, ids]

theorem find?_eq_none_iff (g : Group σ) (id : SurfaceId) : g.find? id = none ↔ id ∉ g.ids := by
  simp [find?, ids]

theorem refusal?_eq_none_iff (g : Group σ) (handle : σ) :
    g.refusal? handle = none ↔ g.exiting = false ∧ Surface.id handle ∉ g.ids := by
  rw [← contains_iff]
  unfold refusal?
  cases g.exiting <;> cases g.contains (Surface.id handle) <;> simp

/-- What the gate of a group does. It is asked first, so a group that is exiting refuses a duplicate
for its exit. -/
structure Gated (g : Group σ) : Prop where
  admits (handle : σ) :
    (g.add handle).result.1 = none ↔ g.exiting = false ∧ Surface.id handle ∉ g.ids
  shut (handle : σ) : g.exiting = true → (g.add handle).result.1 = some ⟨handle, .exiting⟩
  taken (handle : σ) : g.exiting = false → Surface.id handle ∈ g.ids →
    (g.add handle).result.1 = some ⟨handle, .duplicateMember (Surface.id handle)⟩
  refused (handle : σ) : (g.add handle).result.1 ≠ none →
    (g.add handle).result.2 = { g with seq := g.seq + 1 }
  absent (id : SurfaceId) : id ∉ g.ids → g.remove id = pure (none, g)

theorem gated (g : Group σ) : g.Gated where
  admits handle := by
    rw [← refusal?_eq_none_iff]
    unfold add
    cases refusal : g.refusal? handle <;> simp
  shut handle exiting := by
    simp [add, refusal?, exiting]
  taken handle exiting mem := by
    have there : g.contains (Surface.id handle) = true := (g.contains_iff _).2 mem
    simp [add, refusal?, exiting, there]
  refused handle := by
    unfold add
    cases refusal : g.refusal? handle <;> simp
  absent id mem := by
    have missing : g.find? id = none := (g.find?_eq_none_iff id).2 mem
    simp [remove, missing]

theorem entered_cases {g : Group σ} {request : Request σ} {id : SurfaceId}
    (entered : Moment.passage? ⟨g, request⟩ = some (.entered id)) :
    g.exiting = false ∧ id ∉ g.ids := by
  cases request with
  | add handle =>
    simp only [Moment.passage?, Option.ite_none_right_eq_some, Option.isNone_iff_eq_none,
      Option.some.injEq, Passage.entered.injEq] at entered
    obtain ⟨admitted, rfl⟩ := entered
    exact (g.gated.admits handle).1 admitted
  | remove id => simp [Moment.passage?] at entered
  | _ => cases entered

theorem exists_oldest {g : Group σ} {id : SurfaceId} {this : σ} (found : g.find? id = some this) :
    ∃ older newer, g.members = older ++ this :: newer ∧ Surface.id this = id ∧
      ∀ member ∈ older, Surface.id member ≠ id := by
  obtain ⟨goes_by, older, newer, members, others⟩ := List.find?_eq_some_iff_append.1 found
  exact ⟨older, newer, members, eq_of_beq goes_by, by simpa using others⟩

theorem eraseP_of_others (id : SurfaceId) {older : List σ}
    (others : ∀ member ∈ older, Surface.id member ≠ id) {this : σ} (goes_by : Surface.id this = id)
    (newer : List σ) :
    (older ++ this :: newer).eraseP (Surface.id · == id) = older ++ newer := by
  rw [List.eraseP_append_right _ (by simpa using others)]
  simp [goes_by]

section Serving

variable {f : σ → α} [Display δ] [ScrollPolicy π σ]

theorem map_members_serve (keeps : Surface.Keeps f) (leaves : ScrollPolicy.Keeps π f) (g : Group σ)
    (display : δ) (policy : π) {request : Request σ} (edits : Moment.Keeps f ⟨g, request⟩)
    (stays : ¬ request.IsPassage) :
    (g.serve display policy request).result.group.members.map f = g.members.map f := by
  have refreshed (visible : Bool) (adjustment : Option Int32) :
      (g.refresh display policy visible adjustment).result.group.members.map f =
        g.members.map f := by
    obtain ⟨size, group, -⟩ := g.refresh_eq_sweep display policy visible adjustment
    rw [group]
    exact map_sweep f _ (keeps_refreshVisit keeps leaves _ _ _ _) _ _
  cases request with
  | add handle => exact absurd trivial stays
  | remove id => exact absurd trivial stays
  | exit =>
    simp only [serve, exit, Emits.result_bind]
    split <;> rfl
  | hide hidden reason => exact map_sweep f _ (keeps_hideVisit keeps _ _ _) _ _
  | send command synchronous => exact map_sweep f _ (keeps_commandVisit keeps _ _) _ _
  | reposition size synchronous => exact map_sweep f _ (keeps_offsetVisit keeps leaves _ _) _ _
  | setVisible visible => exact refreshed visible none
  | restack visible adjustment => exact refreshed visible (some adjustment)
  | animate animation => exact map_sweep f _ (keeps_animationVisit keeps _ _) _ _
  | awaitsDrawing => rfl
  | edit id change => exact g.map_modify id change (edits (id, change) rfl)

theorem exiting_serve (g : Group σ) (display : δ) (policy : π) (request : Request σ) :
    (g.serve display policy request).result.group.exiting =
      (g.exiting || request.isExit) := by
  have refreshed (visible : Bool) (adjustment : Option Int32) :
      (g.refresh display policy visible adjustment).result.group.exiting = g.exiting := by
    obtain ⟨size, group, -⟩ := g.refresh_eq_sweep display policy visible adjustment
    rw [group]
  cases request with
  | add handle => cases refusal : g.refusal? handle <;> simp [serve, add, refusal, Request.isExit]
  | remove id => cases found : g.find? id <;> simp [serve, remove, found, Request.isExit]
  | exit => cases gone : g.exiting <;> simp [serve, exit, gone, Request.isExit]
  | setVisible visible =>
    simpa [serve, setVisible, Request.isExit] using refreshed visible none
  | restack visible adjustment =>
    simpa [serve, restack, Request.isExit] using refreshed visible (some adjustment)
  | _ => simp [serve, hide, send, reposition, animate, modify, Request.isExit]

theorem ids_serve [SteadySurface σ] [SteadyPolicy π σ] (g : Group σ) (display : δ) (policy : π)
    {request : Request σ} (edits : Moment.Keeps Surface.id ⟨g, request⟩) :
    (g.serve display policy request).result.group.ids =
      (Moment.passage? ⟨g, request⟩).elim g.ids (Passage.apply g.ids) := by
  by_cases passes : request.IsPassage
  · cases request with
    | add handle =>
      cases refusal : g.refusal? handle <;>
        simp [serve, add, refusal, Moment.passage?, Passage.apply, ids]
    | remove id =>
      cases found : g.find? id <;>
        simp [serve, remove, found, Moment.passage?, Passage.apply, ids, ids_eraseP]
    | _ => exact passes.elim
  · have nobody : Moment.passage? ⟨g, request⟩ = none := by
      cases request with
      | add | remove => exact absurd trivial passes
      | _ => rfl
    rw [nobody]
    exact map_members_serve Surface.keeps_id ScrollPolicy.keeps_id g display policy edits passes

end Serving

end Group

end Wallpaper
