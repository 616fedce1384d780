import Wallpaper.Group.Membership
import Wallpaper.Group.Visibility
import Wallpaper.Simulation.Host

/-! Scripts: sequences of steps over one display with its groups, one policy, and a pool of the
handles that groups have given back. Running a step gives its answer and the world after it, and
emits what the groups did on the way. -/
namespace Wallpaper.Simulation

structure Edit where
  id : Option SurfaceId
  size : Option Size
  frame : Option Point
  scroll : Option Vec
  client : Option Client
  visible : Option Bool
  drawn : Option Bool

namespace Edit

def apply (edit : Edit) (pane : Pane) : Pane :=
  { pane with
    id := edit.id.getD pane.id
    size := edit.size.getD pane.size
    frame := edit.frame.getD pane.frame
    scroll := edit.scroll.getD pane.scroll
    client := edit.client.getD pane.client
    visible := edit.visible.getD pane.visible
    drawn := edit.drawn.getD pane.drawn }

end Edit

inductive GroupAction where
  | add (pane : Pane)
  | addPooled (index : Nat)
  | remove (id : SurfaceId)
  | exit
  | hide (hidden : Bool) (reason : String)
  | command (command : Command) (synchronous : Bool)
  /-- Without a size, the size of the display is taken. -/
  | offsets (size : Option Size) (synchronous : Bool)
  | visibility (visible : Bool)
  | layers (visible : Bool) (adjustment : Int32)
  | animate (animation : Animation)
  | query
  | contains (id : SurfaceId)
  | edit (id : SurfaceId) (edit : Edit)
  | drain
  | info

inductive Action where
  | create (display : DisplayId) (token : TokenId)
  | replacePolicy (policy : Policy)
  | moveTo (position : Vec)
  | turnTo (page : UInt32)
  | resize (size : Size)
  | onGroup (action : GroupAction)

inductive Answer where
  | nothing
  | created (index : Nat)
  | added
  | refused (back : Refused Pane)
  | handle (pane? : Option Pane)
  | truth (value : Bool)
  | count (n : Nat)
  | info (group : Group Pane)
  | noSuchHandle
  | noSuchGroup

structure World where
  groups : List (Group Pane)
  screen : Screen
  policy : Policy
  pool : List Pane

namespace World

def start (screen : Screen) (policy : Policy) : World := ⟨[], screen, policy, []⟩

def setGroup (w : World) (index : Nat) (group : Group Pane) : World :=
  { w with groups := w.groups.set index group }

def addHandle (w : World) (index : Nat) (group : Group Pane) (pane : Pane) :
    Emits Effect (Answer × World) := do
  let (refused?, group) ← group.add pane
  let w := w.setGroup index group
  match refused? with
  | none => return (.added, w)
  | some back => return (.refused back, { w with pool := w.pool ++ [back.handle] })

def actOnGroup (w : World) (index : Nat) (group : Group Pane) :
    GroupAction → Emits Effect (Answer × World)
  | .add pane => w.addHandle index group pane
  | .addPooled place =>
    match w.pool[place]? with
    | none => pure (.noSuchHandle, w)
    | some pane => { w with pool := w.pool.eraseIdx place }.addHandle index group pane
  | .remove id => do
    let (pane?, group) ← group.remove id
    return (.handle pane?, { w.setGroup index group with pool := w.pool ++ pane?.toList })
  | .exit => do
    let (group, screen) ← group.exit w.screen
    return (.nothing, { w.setGroup index group with screen })
  | .hide hidden reason => do
    return (.nothing, w.setGroup index (← group.hide hidden reason))
  | .command command synchronous => do
    return (.nothing, w.setGroup index (← group.send command synchronous))
  | .offsets size synchronous => do
    let (group, policy) ← group.reposition w.policy (size.getD w.screen.size) synchronous
    return (.nothing, { w.setGroup index group with policy })
  | .visibility visible => do
    let ⟨group, screen, policy⟩ ← group.setVisible w.screen w.policy visible
    return (.nothing, { w.setGroup index group with screen, policy })
  | .layers visible adjustment => do
    let ⟨group, screen, policy⟩ ← group.restack w.screen w.policy visible adjustment
    return (.nothing, { w.setGroup index group with screen, policy })
  | .animate animation => do
    return (.nothing, w.setGroup index (← group.animate animation))
  | .query => do return (.truth (← group.awaitsDrawing), w)
  | .contains id => pure (.truth (group.contains id), w)
  | .edit id edit =>
    pure (.handle ((group.find? id).map edit.apply), w.setGroup index (group.modify id edit.apply))
  | .drain => do
    let (panes, group) ← group.drain
    return (.count panes.length, { w.setGroup index group with pool := w.pool ++ panes })
  | .info => pure (.info group, w)

/-- Takes an action. The index names a group, for an action on one. -/
def act (w : World) (index : Nat) : Action → Emits Effect (Answer × World)
  | .create display token => do
    let (group, screen) ← Group.create display token w.screen
    return (.created w.groups.length, { w with groups := w.groups ++ [group], screen })
  | .replacePolicy policy => pure (.nothing, { w with policy })
  | .moveTo position =>
    pure (.nothing, { w with policy := w.policy.adjust (·.moveTo position) })
  | .turnTo page => pure (.nothing, { w with policy := w.policy.adjust (·.turnTo page) })
  | .resize size => pure (.nothing, { w with screen := { w.screen with size } })
  | .onGroup action =>
    match w.groups[index]? with
    | none => pure (.noSuchGroup, w)
    | some group => w.actOnGroup index group action

end World

end Wallpaper.Simulation
