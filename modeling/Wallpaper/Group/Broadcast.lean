import Wallpaper.Group.Basic

/-! Operations that visit every member, newest first. Each visit is reported, and then the
operation as a whole, all under one number. At most one member takes a broadcast synchronously:
the newest that accepts a command, or whose offset changes; the others are not kept waiting. -/
namespace Wallpaper

/-- What a broadcast has learned from the members it has visited. -/
structure Progress where
  synchronous : Bool
  taken : Option SurfaceId
  failures : UInt32

namespace Progress

def start (synchronous : Bool) : Progress := ⟨synchronous, none, 0⟩

/-- The member did as it was asked, so nobody after it is asked to be synchronous. -/
def accept (p : Progress) (surface : SurfaceId) : Progress :=
  { p with synchronous := false, taken := if p.synchronous then some surface else p.taken }

/-- The member did not take the command and leaves everything to the others. -/
def fail (p : Progress) : Progress := { p with failures := p.failures + 1 }

end Progress

namespace Group

variable {σ π : Type} [Surface σ]

def hideVisit (header : Header) (hidden : Bool) (reason : String) (_ : Unit) (member : σ) :
    Emits Effect (σ × Unit) := do
  let member ← ask (Ask.hide hidden reason member)
  report header (.dispatch .hide (Surface.id member) false .delivered)
  return (member, ())

def hide (g : Group σ) (hidden : Bool) (reason : String) : Emits Effect (Group σ) := do
  let (members, _) ← sweep (hideVisit g.header hidden reason) () g.members
  let after := { g with members, hidden, seq := g.seq + 1 }
  report g.header (.hide hidden reason after.reportedCount)
  return after

def commandVisit (header : Header) (command : Command) (p : Progress) (member : σ) :
    Emits Effect (σ × Progress) := do
  let (error?, member) ← ask (Ask.dispatch command p.synchronous member)
  let id := Surface.id member
  match error? with
  | none =>
    report header (.dispatch .command id p.synchronous .delivered)
    return (member, p.accept id)
  | some error =>
    report header (.dispatch .command id p.synchronous (.failed error))
    return (member, p.fail)

/-- Forwards a command to every client. A client that cannot be reached is passed over. -/
def send (g : Group σ) (command : Command) (synchronous : Bool) :
    Emits Effect (Group σ) := do
  let (members, p) ← sweep (commandVisit g.header command) (.start synchronous) g.members
  let after := { g with members, seq := g.seq + 1 }
  report g.header (.broadcast .command after.reportedCount p.taken p.failures)
  return after

def offsetVisit [ScrollPolicy π σ] (header : Header) (display : Size) (state : π × Progress)
    (member : σ) : Emits Effect (σ × π × Progress) := do
  let (policy, p) := state
  let ⟨changed, policy, member⟩ ← ask (Ask.update policy member display p.synchronous)
  if changed then
    let (position, member) ← ask (Ask.placement member)
    let member ← ask (Ask.moveTo position member)
    let id := Surface.id member
    report header (.dispatch .offsets id p.synchronous .delivered)
    return (member, policy, p.accept id)
  else
    report header (.dispatch .offsets (Surface.id member) p.synchronous .unchanged)
    return (member, policy, p)

/-- Has the policy update every offset, and moves each surface whose offset changed to its new
place at once. -/
def reposition [ScrollPolicy π σ] (g : Group σ) (policy : π) (display : Size)
    (synchronous : Bool) : Emits Effect (Group σ × π) := do
  let (members, policy, p) ←
    sweep (offsetVisit g.header display) (policy, .start synchronous) g.members
  let after := { g with members, seq := g.seq + 1 }
  report g.header (.broadcast .offsets after.reportedCount p.taken p.failures)
  return (after, policy)

def animationVisit (header : Header) (animation : Animation) (_ : Unit) (member : σ) :
    Emits Effect (σ × Unit) := do
  let member ← ask (Ask.animate animation member)
  report header (.dispatch .animation (Surface.id member) false .delivered)
  return (member, ())

def animate (g : Group σ) (animation : Animation) : Emits Effect (Group σ) := do
  let (members, _) ← sweep (animationVisit g.header animation) () g.members
  let after := { g with members, seq := g.seq + 1 }
  report g.header (.broadcast .animation after.reportedCount none 0)
  return after

/-- Whether a member is to be visible and has not drawn yet. The members are asked one by one
until one says so. -/
def awaitsDrawing (g : Group σ) : Emits Effect Bool := anyNewestFirst g.members
where
  anyNewestFirst : List σ → Emits Effect Bool
    | [] => pure false
    | member :: newer => do
      if ← anyNewestFirst newer then return true
      ask (Ask.awaitsDrawing member)

end Group

end Wallpaper
