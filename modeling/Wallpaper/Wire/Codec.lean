import Wallpaper.Wire.Utf8

/-! How one kind of value is laid out in bytes: a writer and a reader of the same layout, put
together from those of its parts. Words are little-endian. Readers are more lenient than writers
in two places, flags and optional words, and a writer shortens a text that does not fit. -/
namespace Wallpaper.Wire

structure Codec (α : Type) where
  write : α → Bytes
  read : Reader α
  takes_front : read.TakesFront

namespace Codec

def both (first : Codec α) (second : Codec β) : Codec (α × β) where
  write p := first.write p.1 ++ second.write p.2
  read := first.read >>= fun a => second.read >>= fun b => pure (a, b)
  takes_front := Reader.takesFront_bind first.takes_front fun _ =>
    Reader.takesFront_bind second.takes_front fun _ => Reader.takesFront_pure _

def as (codec : Codec α) (wrap : α → β) (unwrap : β → α) : Codec β where
  write b := codec.write (unwrap b)
  read := wrap <$> codec.read
  takes_front := Reader.takesFront_map wrap codec.takes_front

/-- The low bytes of a number, least significant first. -/
def littleEndian : Nat → Nat → Bytes
  | 0, _ => []
  | width + 1, n => UInt8.ofNat n :: littleEndian width (n / 256)

def ofLittleEndian : Bytes → Nat
  | [] => 0
  | b :: rest => b.toNat + 256 * ofLittleEndian rest

@[simp] theorem length_littleEndian (width n : Nat) : (littleEndian width n).length = width := by
  induction width generalizing n with
  | zero => rfl
  | succ width ih => simp [littleEndian, ih]

def word (width : Nat) : Codec Nat where
  write := littleEndian width
  read := ofLittleEndian <$> Reader.take width
  takes_front := Reader.takesFront_map _ (Reader.takesFront_take width)

def word32 : Codec UInt32 := (word 4).as UInt32.ofNat UInt32.toNat

def word64 : Codec UInt64 := (word 8).as UInt64.ofNat UInt64.toNat

/-- A truth value as one byte: zero or one when written, and any byte but zero is read as true. -/
def flag : Codec Bool where
  write b := [if b then 1 else 0]
  read := (· != 0) <$> Reader.byte
  takes_front := Reader.takesFront_map _ Reader.takesFront_byte

/-- A member of a closed list as one byte, its place in the list. Other bytes are refused. -/
def choice [BEq α] (all : List α) : Codec α where
  write a := [UInt8.ofNat (all.idxOf a)]
  read := Reader.byte >>= fun b => Reader.ofOption all[b.toNat]?
  takes_front := Reader.takesFront_bind Reader.takesFront_byte fun _ =>
    Reader.takesFront_ofOption _

/-- An optional word: a flag, then the word, which is there even when the flag is false. It is
written as zero then, and whatever it holds is skipped when read. -/
def optionalWord32 : Codec (Option UInt32) :=
  (both flag word32).as (fun p => if p.1 then some p.2 else none)
    (fun w? => (w?.isSome, w?.getD 0))

/-- The greatest length that a length prefix can hold. -/
def maxLength : Nat := UInt32.size - 1

/-- A text as its length in bytes and its UTF-8 bytes. A longer text than a length prefix can
hold loses its tail when written; bytes that are no UTF-8 are refused when read. -/
def text : Codec String where
  write s :=
    let bytes := (utf8 s).take maxLength
    (word 4).write bytes.length ++ bytes
  read := (word 4).read >>= fun length => Reader.take length >>= fun bytes =>
    Reader.ofOption (ofUtf8? bytes)
  takes_front := Reader.takesFront_bind (word 4).takes_front fun _ =>
    Reader.takesFront_bind (Reader.takesFront_take _) fun _ => Reader.takesFront_ofOption _

end Codec

end Wallpaper.Wire
