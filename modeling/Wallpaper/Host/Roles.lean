import Wallpaper.Animation
import Wallpaper.Command
import Wallpaper.Emits
import Wallpaper.Event

/-! What a group asks of its host: the surfaces it drives, the display it belongs to, and the
policy that decides where a wallpaper sits. A host type gives the answers and how it is changed
by each question; the questions themselves are data, `Call`, so that a run can be read
afterwards. -/
namespace Wallpaper

class Surface (σ : Type) where
  id : σ → SurfaceId
  /-- Hides or shows the surface without telling its client. -/
  hide (hidden : Bool) (reason : String) : σ → σ
  notifyVisible (visible : Bool) : σ → σ
  /-- Forwards a command and waits for the client if asked to be synchronous. Gives the error,
  if there was one. -/
  dispatch (command : Command) (synchronous : Bool) : σ → Option DeliveryError × σ
  /-- Where the surface is to be shown, from its frame and its offset. -/
  placement : σ → Point × σ
  /-- Moves the surface at once, without a layout. -/
  moveTo (position : Point) : σ → σ
  animate (animation : Animation) : σ → σ
  shiftLayer (adjustment : Int32) : σ → σ
  /-- Whether the surface is to be visible and has not drawn yet. -/
  awaitsDrawing : σ → Bool

/-- A surface whose wallpaper can be scrolled within its frame. -/
class ScrollSurface (σ : Type) extends Surface σ where
  extent : σ → Size
  offset : σ → Vec
  /-- Stores an offset and forwards it to the client. -/
  scrollTo (offset : Vec) (synchronous : Bool) : σ → σ

class Display (δ : Type) where
  size : δ → Size
  requestLayout : δ → δ
  attach (token : TokenId) : δ → δ
  detach (token : TokenId) : δ → δ

/-- A call of a group or of its policy to the host, with the answer. -/
inductive Call where
  | hide (surface : SurfaceId) (hidden : Bool) (reason : String)
  | visible (surface : SurfaceId) (visible : Bool)
  | dispatch (surface : SurfaceId) (command : Command) (synchronous : Bool)
      (error : Option DeliveryError)
  | shown (surface : SurfaceId) (position : Point)
  | move (surface : SurfaceId) (position : Point)
  | scroll (surface : SurfaceId) (offset : Vec) (synchronous : Bool)
  | animate (surface : SurfaceId) (animation : Animation)
  | layer (surface : SurfaceId) (adjustment : Int32)
  | unrendered (surface : SurfaceId) (answer : Bool)
  | size
  | layout
  | attach (token : TokenId)
  | detach (token : TokenId)
  /-- The policy was asked to update a surface for a display of this size. -/
  | policy (surface : SurfaceId) (display : Size) (synchronous : Bool) (changed : Bool)
deriving DecidableEq

/-- What a policy leaves of an update: whether the offset changed, itself, and the surface. -/
structure Consultation (π σ : Type) where
  changed : Bool
  policy : π
  surface : σ

/-- Decides the offset of each surface. Its own calls to the surface are emitted. -/
class ScrollPolicy (π σ : Type) where
  update (policy : π) (surface : σ) (display : Size) (synchronous : Bool) :
    Emits Call (Consultation π σ)

end Wallpaper
