import Wallpaper.Event
import Wallpaper.Text.Quoted

/-! Events as lines for people. A line opens with its kind in brackets; the line of a single
member's visit is indented and leaves the header to the line of the broadcast it belongs to. -/
namespace Wallpaper

namespace Header

def pieces (h : Header) : List String :=
  ["display=", toString h.display.number, " token=", toString h.token.number,
    " seq=", toString h.seq]

end Header

namespace Change

def sign : Change → String
  | added => "+"
  | removed => "-"
  | rejected => "!"

end Change

namespace Outcome

def phrase : Outcome → String
  | delivered => "delivered"
  | failed error => "failed: " ++ error.message
  | unchanged => "unchanged"

theorem eq_of_phrase {a b : Outcome} (same : a.phrase = b.phrase) : a = b := by
  rcases a with _ | (_ | _) | _ <;> rcases b with _ | (_ | _) | _ <;>
    simp [phrase, DeliveryError.message] at same ⊢

end Outcome

namespace Event

/-- The line of an event in the pieces it is written in; the last one ends the line. -/
def pieces (e : Event) : List String :=
  match e.detail with
  | .membership surface change members =>
    ["[member] "] ++ e.toHeader.pieces ++
      [" ", change.sign, toString surface, " members=", toString members, "\n"]
  | .exit members =>
    ["[exit] "] ++ e.toHeader.pieces ++ [" members=", toString members, "\n"]
  | .hide hidden reason members =>
    ["[hide] "] ++ e.toHeader.pieces ++
      [" hidden=", toString hidden, " reason=", Text.quoted reason,
        " members=", toString members, "\n"]
  | .broadcast operation members synchronous failures =>
    ["[", operation.name, "] "] ++ e.toHeader.pieces ++
      [" members=", toString members, " sync=", (synchronous.map toString).getD "none",
        " failures=", toString failures, "\n"]
  | .visibility hidden =>
    ["[visibility] "] ++ e.toHeader.pieces ++
      [" hidden=", toString hidden, " (layout requested)", "\n"]
  | .dispatch operation surface synchronous outcome =>
    ["  [", operation.name, ":member] ", toString surface, " sync=", toString synchronous,
      " ", outcome.phrase, "\n"]

def line (e : Event) : String := String.join e.pieces

end Event

end Wallpaper
