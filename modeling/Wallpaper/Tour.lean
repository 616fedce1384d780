import Wallpaper.Binary.Interchange
import Wallpaper.Group.Outline
import Wallpaper.Group.Visibility
import Wallpaper.LogLine
import Wallpaper.Simulation.Host
import Wallpaper.Timeline

/-! A tour through the life of a group. Three surfaces on a phone-sized display are scrolled over
five launcher pages, get commands of which one finds a dead client, are animated, hidden for the
keyguard, and leave. The tour tells what it sees, between the lines of the group's log. -/
namespace Wallpaper.Tour

open Simulation

inductive Happening where
  | effect (effect : Effect)
  | told (line : String)

def on (x : Emits Effect α) : Emits Happening α := x.relabel .effect

def tell (line : String) : Emits Happening Unit := Emits.emit (.told (line ++ "\n"))

def screenSize : Size := ⟨1080, 1920⟩

def pageCount : UInt32 := 5

def pointText (p : Point) : String :=
  "(" ++ p.x.toDecimal ++ ", " ++ p.y.toDecimal ++ ")"

def enroll (complaint : String) (group : Group Pane) (pane : Pane) :
    Emits Happening (Group Pane) := do
  let (refused?, group) ← on (group.add pane)
  if let some back := refused? then tell (complaint ++ ": " ++ back.reason.message)
  return group

/-- A wide wallpaper, one of the display's size, a copy for the lock screen, and the copy again,
which is refused. -/
def enter (group : Group Pane) : Emits Happening (Group Pane) := do
  let panes : List Pane := [
    { id := ⟨1⟩, size := { screenSize with width := 2160 } },
    { id := ⟨2⟩, size := screenSize },
    { id := ⟨3⟩, size := { screenSize with width := 2160 } }]
  let group ← panes.foldlM (enroll "unexpected rejection") group
  enroll "refused" group { id := ⟨3⟩, size := screenSize }

/-- Scrolls to each page in turn and waits for the first surface that moves. -/
def scroll (group : Group Pane) (policy : Parallax) : Emits Happening (Group Pane × Parallax) :=
  (List.range pageCount.toNat).foldlM
    (fun (group, policy) page =>
      on (group.reposition (policy.turnTo (.ofNat page)) screenSize true))
    (group, policy)

def tap : Command where
  action := "android.wallpaper.tap"
  x := 540
  y := 960
  z := 0
  extras := some (.ofList [("pressure", .float (.ofDecimal false 8 1)), ("source", .text "touch")])

def wakingUp : Command := ⟨"android.wallpaper.wakingup", 0, 0, 0, none⟩

def zoomIn : Animation :=
  .move (.scale (.ofDecimal false 11 1)) .identity (.ofParts 0 300000000)

def run : Emits Happening Unit := do
  let (group, screen) ← on (Group.create ⟨0⟩ ⟨1⟩ (⟨screenSize, none, 0, []⟩ : Screen))
  let group ← enter group
  let shown ← on (group.setVisible screen (Parallax.ofConfig (.pages pageCount)) true)
  for pane in shown.group.members do
    tell ("  " ++ toString pane.id ++ " shown at " ++ pointText pane.shown)
  let (group, policy) ← scroll shown.group shown.policy
  -- the client of the lock screen copy has died, so another member answers in its place
  let group := group.modify ⟨3⟩ fun pane => { pane with client := .unreachable }
  let group ← on (group.send tap true)
  let group ← on (group.send wakingUp false)
  let group ← on (group.animate zoomIn)
  let raised ← on (group.restack shown.display policy true 2)
  let waiting ← on raised.group.awaitsDrawing
  tell ("  waiting on first draw: " ++ toString waiting)
  let group ← on (raised.group.hide true "keyguard")
  let hidden ← on (group.setVisible raised.display raised.policy false)
  for pane in hidden.group.members do
    tell ("  " ++ toString pane.id ++ " hidden=" ++ toString pane.hidden ++
      " anim_layer=" ++ toString pane.layer)
  let (group, screen) ← on (hidden.group.exit hidden.display)
  let (_, group) ← on group.drain
  tell (toString group ++ " exiting=" ++ toString group.exiting ++
    " members=" ++ toString group.members.length)
  tell ("display: " ++ toString screen.layouts ++ " layout requests, " ++
    toString screen.attached.length ++ " attached groups")

def Happening.text : Happening → String
  | effect (.event e) => e.line
  | effect (.call _) => ""
  | told line => line

def Happening.event? : Happening → Option Event
  | effect (.event e) => some e
  | _ => none

def text : String := String.join (run.emitted.map Happening.text)

def recording : Wire.Bytes := Recording.encode (run.emitted.filterMap Happening.event?)

def timelinePath : String := "group_trace.json"

def timeline : String := (Timeline.ofEvents (Recording.decode recording)).text

def farewell : String := "Wrote " ++ timelinePath ++ "\n"

end Wallpaper.Tour
