import Wallpaper.Event
import Wallpaper.Wire.Codec

/-! The layout of recorded events. A record is a tag byte, the header, and the fields of the
detail that the tag names; only the reason of a hide has no fixed length, and it comes last. -/
namespace Wallpaper.Recording

open Wire

def surface : Codec SurfaceId := .as .word32 SurfaceId.mk SurfaceId.number

def header : Codec Header :=
  .as (.both .word32 (.both .word32 .word64))
    (fun p => ⟨⟨p.1⟩, ⟨p.2.1⟩, p.2.2⟩)
    (fun h => (h.display.number, h.token.number, h.seq))

def membership : Codec (SurfaceId × Change × UInt32) :=
  .both surface (.both (.choice Change.all) .word32)

def exit : Codec UInt32 := .word32

def hide : Codec (Bool × UInt32 × String) :=
  .both .flag (.both .word32 .text)

def broadcast : Codec (Operation × UInt32 × Option SurfaceId × UInt32) :=
  .both (.choice Operation.all) (.both .word32 (.both
    (.as .optionalWord32 (Option.map SurfaceId.mk) (Option.map SurfaceId.number)) .word32))

def visibility : Codec Bool := .flag

def dispatch : Codec (Operation × SurfaceId × Bool × Outcome) :=
  .both (.choice Operation.all) (.both surface (.both .flag (.choice Outcome.all)))

def tag : Detail → UInt8
  | .membership .. => 1
  | .exit .. => 2
  | .hide .. => 3
  | .broadcast .. => 4
  | .visibility .. => 5
  | .dispatch .. => 6

def writeDetail : Detail → Bytes
  | .membership surface change members => membership.write (surface, change, members)
  | .exit members => exit.write members
  | .hide hidden reason members => hide.write (hidden, members, reason)
  | .broadcast operation members synchronous failures =>
    broadcast.write (operation, members, synchronous, failures)
  | .visibility hidden => visibility.write hidden
  | .dispatch operation surface synchronous outcome =>
    dispatch.write (operation, surface, synchronous, outcome)

/-- Reads the detail that a tag names; an unknown tag names none. -/
def readDetail (tag : UInt8) : Reader Detail :=
  match tag.toNat with
  | 1 => (fun p => .membership p.1 p.2.1 p.2.2) <$> membership.read
  | 2 => .exit <$> exit.read
  | 3 => (fun p => .hide p.1 p.2.2 p.2.1) <$> hide.read
  | 4 => (fun p => .broadcast p.1 p.2.1 p.2.2.1 p.2.2.2) <$> broadcast.read
  | 5 => .visibility <$> visibility.read
  | 6 => (fun p => .dispatch p.1 p.2.1 p.2.2.1 p.2.2.2) <$> dispatch.read
  | _ => Reader.ofOption none

theorem takesFront_readDetail (tag : UInt8) : (readDetail tag).TakesFront := by
  unfold readDetail
  split
  · exact Reader.takesFront_map _ membership.takes_front
  · exact Reader.takesFront_map _ exit.takes_front
  · exact Reader.takesFront_map _ hide.takes_front
  · exact Reader.takesFront_map _ broadcast.takes_front
  · exact Reader.takesFront_map _ visibility.takes_front
  · exact Reader.takesFront_map _ dispatch.takes_front
  · exact Reader.takesFront_ofOption none

def readBody (tag : UInt8) : Reader Event :=
  header.read >>= fun header => (Event.mk header ·) <$> readDetail tag

theorem takesFront_readBody (tag : UInt8) : (readBody tag).TakesFront :=
  Reader.takesFront_bind header.takes_front fun _ =>
    Reader.takesFront_map _ (takesFront_readDetail tag)

def event : Codec Event where
  write e := tag e.detail :: (header.write e.toHeader ++ writeDetail e.detail)
  read := Reader.byte >>= readBody
  takes_front := Reader.takesFront_bind Reader.takesFront_byte takesFront_readBody

theorem length_lt_of_read_event {bytes rest : Bytes} {e : Event}
    (taken : event.read bytes = some (e, rest)) : rest.length < bytes.length := by
  cases bytes with
  | nil => cases taken
  | cons tag body =>
    exact Nat.lt_succ_of_le (Reader.TakesFront.length_le (takesFront_readBody tag) taken)

def encode (events : List Event) : Bytes := events.flatMap event.write

/-- The events of a recording, up to the first record that is cut off or damaged. -/
def decode (bytes : Bytes) : List Event :=
  match taken : event.read bytes with
  | none => []
  | some (e, rest) =>
    have := length_lt_of_read_event taken
    e :: decode rest
termination_by bytes.length

end Wallpaper.Recording
