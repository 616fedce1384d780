import Wallpaper.Wire.Codec

/-! Reading at a position. A scan has all of the bytes before it and moves a position over them. It
asks for the length that is left before each look, and a look at bytes that are not there is a fault
of its own. A cursor scans for the values of a codec. It goes as the reader of the codec goes on the
bytes behind the position, and never looks outside. -/
namespace Wallpaper.Wire

/-- Why a scan ends without a value. -/
inductive Fault where
  | refused
  | outside

abbrev Scan := EStateM Fault Nat

namespace Scan

def remaining (bytes : Bytes) : Scan Nat := fun position =>
  if position ≤ bytes.length then .ok (bytes.length - position) position
  else .error .outside position

def index (bytes : Bytes) : Scan UInt8 := fun position =>
  match bytes[position]? with
  | some b => .ok b position
  | none => .error .outside position

def slice (bytes : Bytes) (count : Nat) : Scan Bytes := fun position =>
  if position + count ≤ bytes.length then .ok ((bytes.drop position).take count) position
  else .error .outside position

def ofOption : Option α → Scan α
  | some a => pure a
  | none => throw .refused

def enough (bytes : Bytes) (count : Nat) : Scan Unit := do
  let left ← remaining bytes
  if left < count then throw .refused

def byte (bytes : Bytes) : Scan UInt8 := do
  enough bytes 1
  let b ← index bytes
  modify (· + 1)
  return b

/-- Moves on behind the bytes only when there is a value in them. -/
def take (bytes : Bytes) (count : Nat) (value? : Bytes → Option α) : Scan α := do
  enough bytes count
  let found ← slice bytes count
  let a ← ofOption (value? found)
  modify (· + count)
  return a

theorem bind_of_ok {scan : Scan α} {further : α → Scan β} {position later : Nat} {a : α}
    (first : scan position = .ok a later) : (scan >>= further) position = further a later := by
  simp only [Bind.bind, EStateM.bind, first]

theorem bind_of_error {scan : Scan α} {further : α → Scan β} {position later : Nat} {fault : Fault}
    (first : scan position = .error fault later) :
    (scan >>= further) position = .error fault later := by
  simp only [Bind.bind, EStateM.bind, first]

section

variable {bytes : Bytes} {position : Nat}

theorem remaining_of_le (inside : position ≤ bytes.length) :
    remaining bytes position = .ok (bytes.length - position) position :=
  if_pos inside

theorem enough_of_le {count : Nat} (fits : position + count ≤ bytes.length) :
    enough bytes count position = .ok () position := by
  have inside : position ≤ bytes.length := by omega
  have not_short : ¬ bytes.length - position < count := by omega
  rw [enough, bind_of_ok (remaining_of_le inside), if_neg not_short]
  rfl

theorem enough_of_lt {count : Nat} (inside : position ≤ bytes.length)
    (short : bytes.length < position + count) :
    enough bytes count position = .error .refused position := by
  have less : bytes.length - position < count := by omega
  rw [enough, bind_of_ok (remaining_of_le inside), if_pos less]
  rfl

theorem index_of_lt (more : position < bytes.length) :
    index bytes position = .ok bytes[position] position := by
  rw [index, List.getElem?_eq_getElem more]

theorem slice_of_le {count : Nat} (fits : position + count ≤ bytes.length) :
    slice bytes count position = .ok ((bytes.drop position).take count) position :=
  if_pos fits

theorem byte_of_lt (more : position < bytes.length) :
    byte bytes position = .ok bytes[position] (position + 1) := by
  rw [byte, bind_of_ok (enough_of_le more), bind_of_ok (index_of_lt more)]
  rfl

theorem byte_at_end : byte bytes bytes.length = .error .refused bytes.length := by
  rw [byte, bind_of_error (enough_of_lt (Nat.le_refl _) (Nat.lt_succ_self _))]

end

/-- The end of a scan from a position is that of a reader on the bytes behind it. The scan has not
gone back, and has not left the bytes. -/
inductive Tallies (bytes : Bytes) (position : Nat) :
    Option (α × Bytes) → EStateM.Result Fault Nat α → Prop where
  | found (a : α) {later : Nat} (forth : position ≤ later) (inside : later ≤ bytes.length) :
    Tallies bytes position (some (a, bytes.drop later)) (.ok a later)
  | refused {later : Nat} (forth : position ≤ later) (inside : later ≤ bytes.length) :
    Tallies bytes position none (.error .refused later)

theorem Tallies.of_later {bytes : Bytes} {earlier position : Nat} {taken : Option (α × Bytes)}
    {result : EStateM.Result Fault Nat α} (forth : earlier ≤ position)
    (h : Tallies bytes position taken result) : Tallies bytes earlier taken result := by
  cases h with
  | found a further inside => exact .found a (Nat.le_trans forth further) inside
  | refused further inside => exact .refused (Nat.le_trans forth further) inside

def Follows (bytes : Bytes) (read : Reader α) (scan : Scan α) : Prop :=
  ∀ position ≤ bytes.length, Tallies bytes position (read (bytes.drop position)) (scan position)

section Follows

variable {bytes : Bytes}

theorem follows_pure (a : α) : Follows bytes (pure a) (pure a) :=
  fun _ inside => .found a (Nat.le_refl _) inside

theorem follows_ofOption (a? : Option α) : Follows bytes (Reader.ofOption a?) (ofOption a?) := by
  intro position inside
  cases a? with
  | none => exact .refused (Nat.le_refl _) inside
  | some a => exact .found a (Nat.le_refl _) inside

theorem Follows.bind {read : Reader α} {scan : Scan α} {next : α → Reader β} {further : α → Scan β}
    (first : Follows bytes read scan) (second : ∀ a, Follows bytes (next a) (further a)) :
    Follows bytes (read >>= next) (scan >>= further) := by
  intro position inside
  have tallies := first position inside
  simp only [Bind.bind, StateT.bind, EStateM.bind]
  generalize read (bytes.drop position) = taken, scan position = result at tallies ⊢
  cases tallies with
  | found a forth inside => exact (second a _ inside).of_later forth
  | refused forth inside => exact .refused forth inside

theorem Follows.map {read : Reader α} {scan : Scan α} (f : α → β) (h : Follows bytes read scan) :
    Follows bytes (f <$> read) (f <$> scan) :=
  h.bind fun a => follows_pure (f a)

theorem follows_byte : Follows bytes Reader.byte (byte bytes) := by
  intro position inside
  by_cases more : position < bytes.length
  · rw [byte_of_lt more, List.drop_eq_getElem_cons more]
    exact .found _ (Nat.le_succ _) more
  · have at_end : position = bytes.length := Nat.le_antisymm inside (Nat.le_of_not_lt more)
    rw [at_end, byte_at_end, List.drop_length]
    exact .refused (Nat.le_refl _) (Nat.le_refl _)

theorem follows_take (count : Nat) (value? : Bytes → Option α) :
    Follows bytes (Reader.take count >>= fun found => Reader.ofOption (value? found))
      (take bytes count value?) := by
  intro position inside
  have left : (bytes.drop position).length = bytes.length - position := List.length_drop
  by_cases fits : position + count ≤ bytes.length
  · have enough_left : count ≤ (bytes.drop position).length := by omega
    rw [take, bind_of_ok (enough_of_le fits), bind_of_ok (slice_of_le fits)]
    simp only [Reader.take, Bind.bind, StateT.bind, if_pos enough_left, Option.bind_some,
      List.drop_drop]
    cases value? ((bytes.drop position).take count) with
    | none => exact .refused (Nat.le_refl _) inside
    | some a => exact .found a (Nat.le_add_right _ _) fits
  · have too_few : ¬ count ≤ (bytes.drop position).length := by omega
    rw [take, bind_of_error (enough_of_lt inside (Nat.lt_of_not_le fits))]
    simp only [Reader.take, Bind.bind, StateT.bind, if_neg too_few]
    exact .refused (Nat.le_refl _) inside

end Follows

end Scan

/-- Where the values of a codec are scanned for. -/
structure Cursor (codec : Codec α) where
  scan (bytes : Bytes) : Scan α
  follows (bytes : Bytes) : Scan.Follows bytes codec.read (scan bytes)

namespace Cursor

open Scan

def both {first : Codec α} {second : Codec β} (c : Cursor first) (d : Cursor second) :
    Cursor (first.both second) where
  scan bytes := do
    let a ← c.scan bytes
    let b ← d.scan bytes
    return (a, b)
  follows bytes :=
    (c.follows bytes).bind fun a => (d.follows bytes).bind fun b => follows_pure (a, b)

def as {codec : Codec α} (c : Cursor codec) (wrap : α → β) (unwrap : β → α) :
    Cursor (codec.as wrap unwrap) where
  scan bytes := wrap <$> c.scan bytes
  follows bytes := (c.follows bytes).map wrap

def word (width : Nat) : Cursor (.word width) where
  scan bytes := Scan.take bytes width fun found => some (Codec.ofLittleEndian found)
  follows _ := follows_take width fun found => some (Codec.ofLittleEndian found)

def word32 : Cursor .word32 := (word 4).as _ _

def word64 : Cursor .word64 := (word 8).as _ _

def flag : Cursor .flag where
  scan bytes := (· != 0) <$> byte bytes
  follows _ := follows_byte.map _

def choice [BEq α] (all : List α) : Cursor (.choice all) where
  scan bytes := byte bytes >>= fun b => ofOption all[b.toNat]?
  follows _ := follows_byte.bind fun _ => follows_ofOption _

def optionalWord32 : Cursor .optionalWord32 := (flag.both word32).as _ _

def text : Cursor .text where
  scan bytes := (word 4).scan bytes >>= fun length => Scan.take bytes length ofUtf8?
  follows bytes := ((word 4).follows bytes).bind fun length => follows_take length ofUtf8?

end Cursor

end Wallpaper.Wire
