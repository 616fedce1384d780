import Wallpaper.Identity

/-! What a group reports about its operations. Every event carries the group it came from and
the group's sequence number, which grows by one with each reported operation, so the events of
one group are ordered without a clock. -/
namespace Wallpaper

inductive Operation where
  | hide
  | command
  | offsets
  | visibility
  | layers
  | animation
deriving DecidableEq

namespace Operation

def all : List Operation := [hide, command, offsets, visibility, layers, animation]

def name : Operation → String
  | hide => "hide"
  | command => "command"
  | offsets => "offsets"
  | visibility => "visibility"
  | layers => "layers"
  | animation => "animation"

theorem eq_of_name {a b : Operation} (same : a.name = b.name) : a = b := by
  cases a <;> cases b <;> simp [name] at same ⊢

def title : Operation → String
  | hide => "Hide"
  | command => "Command"
  | offsets => "Offsets"
  | visibility => "Visibility"
  | layers => "Layers"
  | animation => "Animation"

end Operation

inductive Change where
  | added
  | removed
  | rejected
deriving DecidableEq

namespace Change

def all : List Change := [added, removed, rejected]

def title : Change → String
  | added => "Added"
  | removed => "Removed"
  | rejected => "Rejected"

theorem eq_of_title {a b : Change} (same : a.title = b.title) : a = b := by
  cases a <;> cases b <;> simp [title] at same ⊢

end Change

/-- Why a command did not reach the client behind a surface. -/
inductive DeliveryError where
  | unreachable
  /-- The connection to the client is already torn down. -/
  | detached
deriving DecidableEq

namespace DeliveryError

def message : DeliveryError → String
  | unreachable => "member client is unreachable"
  | detached => "member client is detached"

def title : DeliveryError → String
  | unreachable => "Unreachable"
  | detached => "Detached"

end DeliveryError

/-- How one member's part in a broadcast ended. -/
inductive Outcome where
  | delivered
  /-- The command was lost; the broadcast went on. -/
  | failed (error : DeliveryError)
  /-- The offset policy had nothing to change for this member. -/
  | unchanged
deriving DecidableEq

namespace Outcome

def all : List Outcome := [delivered, failed .unreachable, failed .detached, unchanged]

def title : Outcome → String
  | delivered => "Delivered"
  | failed error => "Failed(" ++ error.title ++ ")"
  | unchanged => "Unchanged"

theorem eq_of_title {a b : Outcome} (same : a.title = b.title) : a = b := by
  rcases a with _ | (_ | _) | _ <;> rcases b with _ | (_ | _) | _ <;>
    simp [title, DeliveryError.title] at same ⊢

end Outcome

/-- Where an event belongs: the group that emitted it, and its number there. -/
structure Header where
  display : DisplayId
  token : TokenId
  seq : UInt64
deriving DecidableEq

/-- What an event reports. A count of members is the count after the reported change. -/
inductive Detail where
  | membership (surface : SurfaceId) (change : Change) (members : UInt32)
  | exit (members : UInt32)
  | hide (hidden : Bool) (reason : String) (members : UInt32)
  /-- A broadcast visited every member. At most one member was asked to be synchronous with
  success; failures counts the members that refused. -/
  | broadcast (operation : Operation) (members : UInt32) (synchronous : Option SurfaceId)
      (failures : UInt32)
  /-- A visibility update flipped the hidden flag of the group, and a layout was requested. -/
  | visibility (hidden : Bool)
  | dispatch (operation : Operation) (surface : SurfaceId) (synchronous : Bool)
      (outcome : Outcome)
deriving DecidableEq

structure Event extends Header where
  detail : Detail
deriving DecidableEq

end Wallpaper
