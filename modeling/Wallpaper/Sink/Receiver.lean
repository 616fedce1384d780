import Wallpaper.Sink.Fan
import Wallpaper.LogLine
import Wallpaper.Recording.Layout
import Wallpaper.Room
import Wallpaper.Text.Outline

/-! The sinks of the library: one that drops what it gets, one that writes lines for people, one
that records bytes, and two that show what they get to an observer. -/
namespace Wallpaper

open Wire

/-- A line writer: what it has stored and the room it has left. -/
structure Printer where
  stored : Bytes
  room : Room

namespace Printer

/-- Writes the line of an event. A line that fails is cut off there, and the failure ends with
the line: the next event is tried again. -/
def print (p : Printer) (e : Event) : Printer :=
  let written := p.room.write e.pieces
  ⟨p.stored ++ written.stored, written.room⟩

end Printer

structure Sighting where
  observer : String
  event : Event
deriving DecidableEq

inductive Receiver where
  | discard
  | observer (name : String)
  /-- Shows the closing events of broadcasts and drops all others. -/
  | broadcastObserver (name : String)
  | printer (state : Printer)
  | recorder (recording : Bytes)

namespace Receiver

def deliver (e : Event) : Receiver → Emits Sighting Receiver
  | discard => pure discard
  | observer name => do
    Emits.emit ⟨name, e⟩
    return observer name
  | broadcastObserver name => do
    if e.detail matches .broadcast .. then Emits.emit ⟨name, e⟩
    return broadcastObserver name
  | printer state => pure (printer (state.print e))
  | recorder recording => pure (recorder (recording ++ Recording.event.write e))

instance : Sink Receiver Sighting where
  deliver := deliver

def printed : Receiver → Bytes
  | printer state => state.stored
  | _ => []

def recorded : Receiver → Bytes
  | recorder recording => recording
  | _ => []

def outline : Receiver → Text.Outline
  | discard => .plain "NoopSink"
  | observer name => .plain name
  | broadcastObserver name => .plain name
  | printer _ => .record "PrettyPrintSink" [] false
  | recorder recording =>
    .record "RecorderSink" [("buf", .list (recording.map fun b => .ofNat b.toNat))] true

end Receiver

namespace Fan

def printed (fan : Fan Receiver) : Bytes := fan.leaves.flatMap Receiver.printed

def recorded (fan : Fan Receiver) : Bytes := fan.leaves.flatMap Receiver.recorded

def outline : Fan Receiver → Text.Outline
  | leaf receiver => receiver.outline
  | both first second =>
    .record "FanOut" [("first", first.outline), ("second", second.outline)] true

end Fan

end Wallpaper
