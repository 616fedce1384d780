import Wallpaper.Parallax

/-! A host to run groups against, without windows or clients: surfaces that remember what they
were told, a display whose size may change with a layout, and policies. -/
namespace Wallpaper.Simulation

inductive Client where
  | accepts
  | unreachable
  | detached
  /-- Has no answer in time when it is waited for, and accepts otherwise. -/
  | failsSynchronous
deriving DecidableEq

namespace Client

def answer (synchronous : Bool) : Client → Option DeliveryError
  | accepts => none
  | unreachable => some .unreachable
  | detached => some .detached
  | failsSynchronous => if synchronous then some .unreachable else none

end Client

structure Pane where
  id : SurfaceId
  size : Size := ⟨0, 0⟩
  frame : Point := .origin
  scroll : Vec := .zero
  client : Client := .accepts
  visible : Bool := false
  drawn : Bool := false
  shown : Point := .origin
  hidden : Bool := false
  layer : Int32 := 0
deriving DecidableEq

instance : ScrollSurface Pane where
  id := Pane.id
  hide hidden _ pane := { pane with hidden }
  notifyVisible visible pane := { pane with visible, drawn := pane.drawn && visible }
  dispatch _ synchronous pane := (pane.client.answer synchronous, pane)
  placement pane := (pane.frame.shift pane.scroll, pane)
  moveTo position pane := { pane with shown := position }
  animate _ pane := pane
  shiftLayer adjustment pane := { pane with layer := pane.layer + adjustment }
  awaitsDrawing pane := pane.visible && !pane.drawn
  extent := Pane.size
  offset := Pane.scroll
  scrollTo offset _ pane := { pane with scroll := offset }

/-- A display. It takes another size when a layout is asked for, if one is waiting. -/
structure Screen where
  size : Size
  waitingSize : Option Size
  layouts : Nat
  attached : List TokenId
deriving DecidableEq

instance : Display Screen where
  size := Screen.size
  requestLayout screen :=
    { screen with layouts := screen.layouts + 1, size := screen.waitingSize.getD screen.size }
  attach token screen := { screen with attached := screen.attached ++ [token] }
  detach token screen := { screen with attached := screen.attached.filter (· != token) }

inductive Policy where
  /-- Says of these surfaces that they changed, and touches none. -/
  | scripted (changed : List SurfaceId)
  | parallax (state : Parallax)
deriving DecidableEq

instance : ScrollPolicy Policy Pane where
  update
    | .scripted changed, pane, _, _ => pure ⟨changed.contains pane.id, .scripted changed, pane⟩
    | .parallax state, pane, display, synchronous => do
      let ⟨changed, state, pane⟩ ← state.update pane display synchronous
      return ⟨changed, .parallax state, pane⟩

namespace Policy

/-- Lets the owner of a parallax policy change it. -/
def adjust (change : Parallax → Parallax) : Policy → Policy
  | scripted changed => scripted changed
  | parallax state => parallax (change state)

end Policy

end Wallpaper.Simulation
