import Wallpaper.Group.Basic

/-! Entering and leaving a group, and its exit. A refused handle goes back to its owner. -/
namespace Wallpaper

inductive Refusal where
  | exiting
  | duplicateMember (id : SurfaceId)
deriving DecidableEq

namespace Refusal

def message : Refusal → String
  | exiting => "surface group is exiting"
  | duplicateMember id => "surface " ++ toString id ++ " is already a member"

end Refusal

structure Refused (σ : Type) where
  handle : σ
  reason : Refusal

namespace Group

variable {σ δ : Type} [Surface σ]

def refusal? (g : Group σ) (handle : σ) : Option Refusal :=
  if g.exiting then some .exiting
  else if g.contains (Surface.id handle) then some (.duplicateMember (Surface.id handle))
  else none

/-- Takes a handle as the newest member, or gives it back. -/
def add (g : Group σ) (handle : σ) : Emits Effect (Option (Refused σ) × Group σ) := do
  let surface := Surface.id handle
  match g.refusal? handle with
  | some reason =>
    report g.header (.membership surface .rejected g.reportedCount)
    return (some ⟨handle, reason⟩, { g with seq := g.seq + 1 })
  | none =>
    let after := { g with members := g.members ++ [handle], seq := g.seq + 1 }
    report g.header (.membership surface .added after.reportedCount)
    return (none, after)

/-- Gives back the oldest member with this id. Without one, nothing happens. -/
def remove (g : Group σ) (id : SurfaceId) : Emits Effect (Option σ × Group σ) := do
  match g.find? id with
  | none => return (none, g)
  | some handle =>
    let after := { g with
      members := g.members.eraseP (Surface.id · == id)
      seq := g.seq + 1 }
    report g.header (.membership id .removed after.reportedCount)
    return (some handle, after)

/-- Removes members by their ids, one after the other, and gives back those there are. -/
def removeEach (g : Group σ) : List SurfaceId → Emits Effect (List σ × Group σ)
  | [] => pure ([], g)
  | id :: rest => do
    let (handle?, g) ← g.remove id
    let (handles, g) ← g.removeEach rest
    return (handle?.toList ++ handles, g)

/-- Removes every member, by the ids there are at the start. -/
def drain (g : Group σ) : Emits Effect (List σ × Group σ) := g.removeEach g.ids

/-- Closes the group to new members and takes it off its display. Members stay until they are
removed, and a second exit does nothing. -/
def exit [Display δ] (g : Group σ) (d : δ) : Emits Effect (Group σ × δ) := do
  if g.exiting then return (g, d)
  let d ← ask (Ask.detach g.token d)
  report g.header (.exit g.reportedCount)
  return ({ g with exiting := true, seq := g.seq + 1 }, d)

end Group

end Wallpaper
