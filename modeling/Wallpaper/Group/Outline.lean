import Wallpaper.Group.Membership
import Wallpaper.Text.Outline

/-! The developer's view of groups and of what they refuse. Numbers of the host are written with
their kind and stay on one line; the sequence number and the members themselves are not shown. -/
namespace Wallpaper

open Text

def DisplayId.outline (id : DisplayId) : Outline :=
  .plain ("DisplayId(" ++ toString id.number ++ ")")

def TokenId.outline (id : TokenId) : Outline :=
  .plain ("TokenId(" ++ toString id.number ++ ")")

def SurfaceId.outline (id : SurfaceId) : Outline :=
  .plain ("SurfaceId(" ++ toString id.number ++ ")")

def Refusal.outline : Refusal → Outline
  | exiting => .plain "Exiting"
  | duplicateMember id => .tuple "DuplicateMember" [id.outline]

/-- The handle is left out. -/
def Refused.outline (r : Refused σ) : Outline :=
  .record "Rejected" [("error", r.reason.outline)] false

namespace Group

def outline (g : Group σ) : Outline :=
  .record "SurfaceGroup"
    [("display", g.display.outline), ("token", g.token.outline),
      ("members", .ofNat g.members.length), ("hidden", .ofBool g.hidden),
      ("exiting", .ofBool g.exiting)] false

/-- The display and the token tell a group from all others. -/
instance : ToString (Group σ) where
  toString g := "SurfaceGroup\x7bdisplay=" ++ toString g.display.number ++
    " token=" ++ toString g.token.number ++ "\x7d"

end Group

end Wallpaper
