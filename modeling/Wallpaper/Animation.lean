import Wallpaper.Binary.Unit
import Wallpaper.Geometry

/-! Animations as values. An animation says how transform and opacity run from a start to an end;
whoever owns the clock asks for the frame at a fraction of the running time. -/
namespace Wallpaper

structure Duration where
  seconds : UInt64
  nanoseconds : UInt32
  less_than_second : nanoseconds < 1000000000 := by decide
deriving DecidableEq

namespace Duration

/-- Nanoseconds that make up whole seconds are counted as such. -/
def ofParts (seconds : UInt64) (nanoseconds : UInt32) : Duration where
  seconds := seconds + (nanoseconds / 1000000000).toUInt64
  nanoseconds := nanoseconds % 1000000000
  less_than_second := UInt32.mod_lt _ (by decide)

end Duration

structure Frame where
  transform : Affine
  opacity : Single
deriving DecidableEq

structure Animation where
  start : Affine
  finish : Affine
  startOpacity : Single
  finishOpacity : Single
  duration : Duration
deriving DecidableEq

/-- The number a fraction of the way from one number to another. -/
def Binary.between (start finish fraction : Binary f) : Binary f :=
  start + (finish - start) * fraction

namespace Frame

def equal (a b : Frame) : Bool := a.transform.equal b.transform && a.opacity.equal b.opacity

end Frame

namespace Animation

def still : Animation := ⟨.identity, .identity, 1, 1, { seconds := 0, nanoseconds := 0 }⟩

def fade (start finish : Single) (duration : Duration) : Animation :=
  ⟨.identity, .identity, start, finish, duration⟩

def move (start finish : Affine) (duration : Duration) : Animation :=
  ⟨start, finish, 1, 1, duration⟩

/-- The frame at a fraction of the running time. A fraction before the start or past the end
counts as the start or the end, and one that is no number as the start. -/
def frameAt (a : Animation) (fraction : Double) : Frame :=
  let t := fraction.toUnit
  { transform := ⟨(a.start.coefficients.zip a.finish.coefficients).map fun p =>
      Binary.between p.1 p.2 t⟩
    opacity := Binary.between a.startOpacity a.finishOpacity (t.convert .single) }

def equal (a b : Animation) : Bool :=
  a.start.equal b.start && a.finish.equal b.finish && a.startOpacity.equal b.startOpacity &&
    a.finishOpacity.equal b.finishOpacity && a.duration == b.duration

end Animation

end Wallpaper
