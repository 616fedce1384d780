import Wallpaper.Group.Broadcast

/-! Showing and hiding the wallpaper with its display. A group whose hidden flag says otherwise
is flipped and asks for a layout, since a wallpaper that comes or goes changes what the display
has to show. On the way in each member's offset is refreshed before its client is told. -/
namespace Wallpaper

structure Refreshed (σ δ π : Type) where
  group : Group σ
  display : δ
  policy : π

namespace Group

variable {σ δ π : Type} [Surface σ] [Display δ] [ScrollPolicy π σ]

/-- Brings the hidden flag in line with what is to be seen. -/
def flipHidden (g : Group σ) (d : δ) (visible : Bool) : Emits Effect (Group σ × δ) := do
  if g.hidden = visible then
    let d ← ask (Ask.requestLayout d)
    report g.header (.visibility !visible)
    return ({ g with hidden := !visible }, d)
  else return (g, d)

/-- Refreshes the offset of one member on the way in, tells its client, and shifts its layer if
there is an adjustment. -/
def refreshVisit (header : Header) (size : Size) (visible : Bool) (adjustment : Option Int32)
    (policy : π) (member : σ) : Emits Effect (σ × π) := do
  let (member, policy) ← if visible then do
      let ⟨_, policy, member⟩ ← ask (Ask.update policy member size false)
      pure (member, policy)
    else pure (member, policy)
  let member ← ask (Ask.notifyVisible visible member)
  match adjustment with
  | none =>
    report header (.dispatch .visibility (Surface.id member) false .delivered)
    return (member, policy)
  | some adjustment =>
    let member ← ask (Ask.shiftLayer adjustment member)
    report header (.dispatch .layers (Surface.id member) false .delivered)
    return (member, policy)

/-- Visits every member once the flag is right. The size of the display is read after a layout
was asked for. -/
def refresh (g : Group σ) (d : δ) (policy : π) (visible : Bool) (adjustment : Option Int32) :
    Emits Effect (Refreshed σ δ π) := do
  let (flipped, d) ← g.flipHidden d visible
  let size ← ask (Ask.size d)
  let (members, policy) ←
    sweep (refreshVisit g.header size visible adjustment) policy flipped.members
  let after := { flipped with members, seq := g.seq + 1 }
  let operation : Operation := if adjustment.isSome then .layers else .visibility
  report g.header (.broadcast operation after.reportedCount none 0)
  return ⟨after, d, policy⟩

def setVisible (g : Group σ) (d : δ) (policy : π) (visible : Bool) :
    Emits Effect (Refreshed σ δ π) :=
  g.refresh d policy visible none

/-- Also shifts the animation layer of every member, by zero if it is told so. -/
def restack (g : Group σ) (d : δ) (policy : π) (visible : Bool) (adjustment : Int32) :
    Emits Effect (Refreshed σ δ π) :=
  g.refresh d policy visible (some adjustment)

end Group

end Wallpaper
