import Wallpaper.Binary.Basic

/-! Places, distances and sizes on a display, in pixels, and the transforms an animation runs
through. -/
namespace Wallpaper

structure Vec where
  x : Double
  y : Double
deriving DecidableEq

structure Point where
  x : Double
  y : Double
deriving DecidableEq

structure Size where
  width : Double
  height : Double
deriving DecidableEq

/-- Six coefficients, column by column: the linear part, and then the shift. -/
structure Affine where
  coefficients : Vector Double 6
deriving DecidableEq

namespace Vec

def zero : Vec := ⟨0, 0⟩

def equal (v w : Vec) : Bool := v.x.equal w.x && v.y.equal w.y

end Vec

namespace Point

def origin : Point := ⟨0, 0⟩

def shift (p : Point) (v : Vec) : Point := ⟨p.x + v.x, p.y + v.y⟩

end Point

namespace Affine

def scale (factor : Double) : Affine := ⟨#v[factor, 0, 0, factor, 0, 0]⟩

def identity : Affine := scale 1

def equal (a b : Affine) : Bool :=
  (a.coefficients.zip b.coefficients).all fun p => p.1.equal p.2

end Affine

end Wallpaper
