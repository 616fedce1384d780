import Wallpaper.Host.Roles

/-! Questions to the host. Each one emits the call it is and leaves the host changed by it. -/
namespace Wallpaper.Ask

variable {σ δ π : Type}

section Surfaces

variable [Surface σ]

def hide (hidden : Bool) (reason : String) (s : σ) : Emits Call σ := do
  Emits.emit (.hide (Surface.id s) hidden reason)
  return Surface.hide hidden reason s

def notifyVisible (visible : Bool) (s : σ) : Emits Call σ := do
  Emits.emit (.visible (Surface.id s) visible)
  return Surface.notifyVisible visible s

def dispatch (command : Command) (synchronous : Bool) (s : σ) :
    Emits Call (Option DeliveryError × σ) := do
  let (error, after) := Surface.dispatch command synchronous s
  Emits.emit (.dispatch (Surface.id s) command synchronous error)
  return (error, after)

def placement (s : σ) : Emits Call (Point × σ) := do
  let (position, after) := Surface.placement s
  Emits.emit (.shown (Surface.id s) position)
  return (position, after)

def moveTo (position : Point) (s : σ) : Emits Call σ := do
  Emits.emit (.move (Surface.id s) position)
  return Surface.moveTo position s

def animate (animation : Animation) (s : σ) : Emits Call σ := do
  Emits.emit (.animate (Surface.id s) animation)
  return Surface.animate animation s

def shiftLayer (adjustment : Int32) (s : σ) : Emits Call σ := do
  Emits.emit (.layer (Surface.id s) adjustment)
  return Surface.shiftLayer adjustment s

def awaitsDrawing (s : σ) : Emits Call Bool := do
  let answer := Surface.awaitsDrawing s
  Emits.emit (.unrendered (Surface.id s) answer)
  return answer

def update [ScrollPolicy π σ] (policy : π) (s : σ) (display : Size) (synchronous : Bool) :
    Emits Call (Consultation π σ) := do
  let answer ← ScrollPolicy.update policy s display synchronous
  Emits.emit (.policy (Surface.id s) display synchronous answer.changed)
  return answer

end Surfaces

def scrollTo [ScrollSurface σ] (offset : Vec) (synchronous : Bool) (s : σ) :
    Emits Call σ := do
  Emits.emit (.scroll (Surface.id s) offset synchronous)
  return ScrollSurface.scrollTo offset synchronous s

section Displays

variable [Display δ]

def size (d : δ) : Emits Call Size := do
  Emits.emit .size
  return Display.size d

def requestLayout (d : δ) : Emits Call δ := do
  Emits.emit .layout
  return Display.requestLayout d

def attach (token : TokenId) (d : δ) : Emits Call δ := do
  Emits.emit (.attach token)
  return Display.attach token d

def detach (token : TokenId) (d : δ) : Emits Call δ := do
  Emits.emit (.detach token)
  return Display.detach token d

end Displays

end Wallpaper.Ask
