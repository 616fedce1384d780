import Mathlib.Data.List.Perm.Basic
import Wallpaper.Proofs.Group.Passage

/-! Who is in a group. The members are an ordered list without duplicates behind a gate that shuts
once and for all: they are those who entered and have not left since, oldest first. Every handle is
either in the group or with its owner, and never in both places or lost. -/
namespace Wallpaper

variable {σ δ π α : Type}

structure Rostered [Surface σ] (moments : List (Moment σ)) (g : Group σ) : Prop where
  distinct : g.ids.Nodup
  current : g.ids = Passage.present (moments.filterMap Moment.passage?)
  exiting : g.exiting = moments.any (·.request.isExit)

theorem Rostered.serve [Surface σ] [SteadySurface σ] [Display δ] [ScrollPolicy π σ]
    [SteadyPolicy π σ] {moments : List (Moment σ)} {g : Group σ} (rostered : Rostered moments g)
    (display : δ) (policy : π) {request : Request σ}
    (edits : Moment.Keeps Surface.id ⟨g, request⟩) :
    Rostered (moments ++ [⟨g, request⟩]) (g.serve display policy request).result.group := by
  have ids := g.ids_serve display policy edits
  have exiting := g.exiting_serve display policy request
  have distinct := rostered.distinct
  have history : (moments ++ [⟨g, request⟩] : List (Moment σ)).filterMap Moment.passage? =
      moments.filterMap Moment.passage? ++ (Moment.passage? ⟨g, request⟩).toList := by
    cases passed : Moment.passage? ⟨g, request⟩ <;> simp [passed]
  constructor
  · rw [ids]
    cases passed : Moment.passage? ⟨g, request⟩ with
    | none => exact distinct
    | some passage =>
      cases passage with
      | entered id =>
        have absent : id ∉ g.ids := (Group.entered_cases passed).2
        simpa [Passage.apply, List.nodup_append] using ⟨distinct, fun x mem same =>
          absent (same ▸ mem)⟩
      | left id => exact distinct.erase id
  · rw [ids, history]
    cases passed : Moment.passage? ⟨g, request⟩ with
    | none => simpa using rostered.current
    | some passage =>
      rw [Option.toList_some, Passage.present_concat (rostered.current ▸ distinct),
        ← rostered.current]
      rfl
  · rw [exiting, rostered.exiting]
    simp

namespace Life

section Handles

variable [Surface σ] [Display δ] [ScrollPolicy π σ] {f : σ → α}

def handles (life : Life σ) : List σ := life.group.members ++ life.back

end Handles

variable [Surface σ] [SteadySurface σ] [Display δ] [ScrollPolicy π σ] [SteadyPolicy π σ]

def label (pane : Simulation.Pane) : SurfaceId × Size := (pane.id, pane.size)

end Life

end Wallpaper
