import Wallpaper.Recording.Layout
import Wallpaper.Room
import Wallpaper.Text.Json

/-! Recordings as timelines for a trace viewer. Groups have no clock, so the sequence number of an
event is its time; displays are the viewer's processes and groups its threads. Every event is an
instant mark. -/
namespace Wallpaper.Timeline

open Text

/-- How far the line of a mark is drawn: over its thread, or over the whole process. -/
inductive Scope where
  | thread
  | process

structure Mark where
  name : String
  category : String
  scope : Scope
  args : List (String × Json)

def surface (id : SurfaceId) : Json := .number id.number.toNat

/-- The arguments are listed in the order of their names. -/
def mark : Detail → Mark
  | .membership id change members =>
    { name := change.title, category := "Membership", scope := .thread
      args := [("members", .number members.toNat), ("surface", surface id)] }
  | .exit members =>
    { name := "Exit", category := "Lifecycle", scope := .process
      args := [("members", .number members.toNat)] }
  | .hide hidden reason members =>
    { name := if hidden then "Hide" else "Show", category := "Broadcast", scope := .thread
      args := [("members", .number members.toNat), ("reason", .string reason)] }
  | .broadcast operation members synchronous failures =>
    { name := operation.name, category := "Broadcast", scope := .thread
      args := [("failures", .number failures.toNat), ("members", .number members.toNat),
        ("synchronous_member", (synchronous.map surface).getD .null)] }
  | .visibility hidden =>
    { name := "VisibilityFlip", category := "Lifecycle", scope := .thread
      args := [("hidden", .bool hidden)] }
  | .dispatch operation id synchronous outcome =>
    { name := operation.name ++ ":member", category := "Rich", scope := .thread
      args := [("outcome", .string outcome.title), ("surface", surface id),
        ("synchronous", .bool synchronous)] }

/-- The entries are listed in the order of their keys. -/
def entry (e : Event) : Json :=
  let m := mark e.detail
  .object [
    ("args", .object m.args),
    ("cat", .string m.category),
    ("name", .string m.name),
    ("ph", .string "i"),
    ("pid", .number e.display.number.toNat),
    ("s", .string (match m.scope with | .thread => "t" | .process => "p")),
    ("tid", .number e.token.number.toNat),
    ("ts", .number e.seq.toNat)]

def ofEvents (events : List Event) : Json := .array (events.map entry)

/-- Hands the timeline of a recording to a writer, and fails as the writer does. -/
def writeTo (writer : Writer ε σ) (recording : Wire.Bytes) : EStateM ε σ Unit :=
  writer.writeAll ((ofEvents (Recording.decode recording)).pieces 0)

/-- Writes the timeline of a recording to a place, as far as it fits. -/
def write (recording : Wire.Bytes) (room : Room) : Written :=
  room.write ((ofEvents (Recording.decode recording)).pieces 0)

end Wallpaper.Timeline
