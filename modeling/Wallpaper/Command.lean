import Wallpaper.Extras

/-! Commands for the clients behind the surfaces. The library forwards a command and never looks
at its action. -/
namespace Wallpaper

structure Command where
  action : String
  x : Int32
  y : Int32
  /-- A third coordinate, or a number with a meaning of the action's own. -/
  z : Int32
  extras : Option Extras
deriving DecidableEq

namespace Command

def equal (a b : Command) : Bool :=
  a.action == b.action && a.x == b.x && a.y == b.y && a.z == b.z &&
    match a.extras, b.extras with
    | none, none => true
    | some e, some f => e.equal f
    | _, _ => false

end Command

end Wallpaper
