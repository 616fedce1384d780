import Wallpaper.Simulation.Host

/-! Hosts whose surfaces keep their numbers. A group tells its members apart by number and looks
at the numbers again and again, so what it remembers of them is worth only as much as their
numbers stay. -/
namespace Wallpaper

/-- Whatever a group asks of a surface leaves it its number. -/
class SteadySurface (σ : Type) [Surface σ] : Prop where
  id_hide (hidden : Bool) (reason : String) (s : σ) :
    Surface.id (Surface.hide hidden reason s) = Surface.id s
  id_notifyVisible (visible : Bool) (s : σ) :
    Surface.id (Surface.notifyVisible visible s) = Surface.id s
  id_dispatch (command : Command) (synchronous : Bool) (s : σ) :
    Surface.id (Surface.dispatch command synchronous s).2 = Surface.id s
  id_placement (s : σ) : Surface.id (Surface.placement s).2 = Surface.id s
  id_moveTo (position : Point) (s : σ) : Surface.id (Surface.moveTo position s) = Surface.id s
  id_animate (animation : Animation) (s : σ) :
    Surface.id (Surface.animate animation s) = Surface.id s
  id_shiftLayer (adjustment : Int32) (s : σ) :
    Surface.id (Surface.shiftLayer adjustment s) = Surface.id s

attribute [simp] SteadySurface.id_hide SteadySurface.id_notifyVisible SteadySurface.id_dispatch
  SteadySurface.id_placement SteadySurface.id_moveTo SteadySurface.id_animate
  SteadySurface.id_shiftLayer

/-- Whatever the policy does to a surface leaves it its number. -/
class SteadyPolicy (π σ : Type) [Surface σ] [ScrollPolicy π σ] : Prop where
  id_update (policy : π) (s : σ) (display : Size) (synchronous : Bool) :
    Surface.id (ScrollPolicy.update policy s display synchronous).result.surface = Surface.id s

attribute [simp] SteadyPolicy.id_update

variable {σ π α : Type}

/-- Whatever a group asks of a surface keeps this of it. -/
structure Surface.Keeps [Surface σ] (f : σ → α) : Prop where
  hide (hidden : Bool) (reason : String) (s : σ) : f (Surface.hide hidden reason s) = f s
  notifyVisible (visible : Bool) (s : σ) : f (Surface.notifyVisible visible s) = f s
  dispatch (command : Command) (synchronous : Bool) (s : σ) :
    f (Surface.dispatch command synchronous s).2 = f s
  placement (s : σ) : f (Surface.placement s).2 = f s
  moveTo (position : Point) (s : σ) : f (Surface.moveTo position s) = f s
  animate (animation : Animation) (s : σ) : f (Surface.animate animation s) = f s
  shiftLayer (adjustment : Int32) (s : σ) : f (Surface.shiftLayer adjustment s) = f s

/-- Whatever the policy does to a surface keeps this of it. -/
def ScrollPolicy.Keeps (π : Type) [ScrollPolicy π σ] (f : σ → α) : Prop :=
  ∀ (policy : π) (s : σ) (display : Size) (synchronous : Bool),
    f (ScrollPolicy.update policy s display synchronous).result.surface = f s

theorem Surface.keeps_id [Surface σ] [SteadySurface σ] :
    Surface.Keeps (Surface.id : σ → SurfaceId) where
  hide := SteadySurface.id_hide
  notifyVisible := SteadySurface.id_notifyVisible
  dispatch := SteadySurface.id_dispatch
  placement := SteadySurface.id_placement
  moveTo := SteadySurface.id_moveTo
  animate := SteadySurface.id_animate
  shiftLayer := SteadySurface.id_shiftLayer

theorem ScrollPolicy.keeps_id [Surface σ] [ScrollPolicy π σ] [SteadyPolicy π σ] :
    ScrollPolicy.Keeps π (Surface.id : σ → SurfaceId) :=
  SteadyPolicy.id_update

/-- A policy that finds the offset as it would have it leaves everything as it is. -/
theorem Parallax.update_cases [ScrollSurface σ] (p : Parallax) (s : σ) (display : Size)
    (synchronous : Bool) :
    let target := p.offset (ScrollSurface.extent s) display
    ((ScrollSurface.offset s).equal target = true ∧
      p.update s display synchronous = pure ⟨false, p, s⟩) ∨
    ((ScrollSurface.offset s).equal target = false ∧
      p.update s display synchronous =
        Ask.scrollTo target synchronous s >>= fun s => pure ⟨true, p, s⟩) := by
  intro target
  unfold update
  cases same : (ScrollSurface.offset s).equal target with
  | true => exact .inl ⟨rfl, by simp [target, same]⟩
  | false => exact .inr ⟨rfl, by simp [target, same]⟩

namespace Simulation

instance : SteadySurface Pane where
  id_hide _ _ _ := rfl
  id_notifyVisible _ _ := rfl
  id_dispatch _ _ _ := rfl
  id_placement _ := rfl
  id_moveTo _ _ := rfl
  id_animate _ _ := rfl
  id_shiftLayer _ _ := rfl

/-- Policies only scroll the surfaces that they are asked about. -/
theorem surface_update (policy : Policy) (pane : Pane) (display : Size) (synchronous : Bool) :
    ∃ scroll, (ScrollPolicy.update policy pane display synchronous).result.surface =
      { pane with scroll } := by
  cases policy with
  | scripted changed => exact ⟨pane.scroll, rfl⟩
  | parallax state =>
    rcases state.update_cases pane display synchronous with ⟨-, stays⟩ | ⟨-, moves⟩
    · exact ⟨pane.scroll, by simp [ScrollPolicy.update, stays]⟩
    · exact ⟨_, by simp [ScrollPolicy.update, moves, Ask.scrollTo]; rfl⟩

instance : SteadyPolicy Policy Pane where
  id_update policy pane display synchronous := by
    obtain ⟨scroll, only⟩ := surface_update policy pane display synchronous
    rw [only]
    rfl

end Simulation

end Wallpaper
