import Wallpaper.Binary.Unit
import Wallpaper.Host.Asking

/-! Scrolling a wallpaper that is larger than its display. A position runs from zero, the left or
upper edge, to one, the right or lower edge; the offset is the position's part of the excess of
the frame over the display, to the left or upwards. Along an axis with no excess the wallpaper
stays where it is. -/
namespace Wallpaper

structure Parallax.Config where
  initial : Vec
  /-- The distance between two pages of the launcher, if it has pages. -/
  step : Option Vec
  /-- Whether offsets are rounded to whole pixels. -/
  snap : Bool
deriving DecidableEq

namespace Vec

def InUnit (v : Vec) : Prop := v.x.InUnit ∧ v.y.InUnit

def toUnit (v : Vec) : Vec := ⟨v.x.toUnit, v.y.toUnit⟩

theorem inUnit_toUnit (v : Vec) : v.toUnit.InUnit :=
  ⟨Binary.inUnit_toUnit v.x, Binary.inUnit_toUnit v.y⟩

end Vec

structure Parallax where
  config : Parallax.Config
  position : Vec
  in_unit : position.InUnit
deriving DecidableEq

namespace Parallax

def half : Double := .ofDecimal false 5 1

namespace Config

def centered : Config := ⟨⟨half, half⟩, none, true⟩

def pinned : Config := ⟨.zero, none, true⟩

/-- Pages side by side from the left edge to the right one. Fewer than two make no step. -/
def pages (count : UInt32) : Config :=
  let step : Double := if 1 < count then 1 / Binary.ofNat (count.toNat - 1) else 0
  ⟨⟨0, half⟩, some ⟨step, 0⟩, true⟩

def equal (a b : Config) : Bool :=
  a.initial.equal b.initial && a.snap == b.snap &&
    match a.step, b.step with
    | none, none => true
    | some v, some w => v.equal w
    | _, _ => false

end Config

def ofConfig (config : Config) : Parallax :=
  ⟨config, config.initial.toUnit, Vec.inUnit_toUnit _⟩

def moveTo (p : Parallax) (position : Vec) : Parallax :=
  ⟨p.config, position.toUnit, Vec.inUnit_toUnit _⟩

/-- Moves to a page, along each axis that has a step. -/
def turnTo (p : Parallax) (page : UInt32) : Parallax :=
  match p.config.step with
  | none => p
  | some step =>
    let place (step position : Double) : Double :=
      if Binary.lessThan 0 step then step * Binary.ofNat page.toNat else position
    p.moveTo ⟨place step.x p.position.x, place step.y p.position.y⟩

/-- The offset along one axis. Subtracting from zero keeps a zero offset positive. -/
def along (excess position : Double) : Double :=
  if Binary.lessThan 0 excess then 0 - excess * position else 0

def offset (p : Parallax) (frame display : Size) : Vec :=
  let x := along (frame.width - display.width) p.position.x
  let y := along (frame.height - display.height) p.position.y
  if p.config.snap then ⟨x.roundWhole, y.roundWhole⟩ else ⟨x, y⟩

/-- Pushes the offset to a surface unless it is already there. -/
def update [ScrollSurface σ] (p : Parallax) (surface : σ) (display : Size) (synchronous : Bool) :
    Emits Call (Consultation Parallax σ) := do
  let target := p.offset (ScrollSurface.extent surface) display
  if (ScrollSurface.offset surface).equal target then
    return ⟨false, p, surface⟩
  let surface ← Ask.scrollTo target synchronous surface
  return ⟨true, p, surface⟩

instance [ScrollSurface σ] : ScrollPolicy Parallax σ where
  update := update

end Parallax

end Wallpaper
