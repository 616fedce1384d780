import Wallpaper.Proofs.Wire.Grammar

/-! The grammars of single fields. Words, choices and texts are spelled in one way only. A flag is
lenient where it is true, and an optional word where there is none. Nothing that is read is too
large for its field, so what is read can be written again. -/
namespace Wallpaper.Wire

namespace Codec

theorem littleEndian_ofLittleEndian (bytes : Bytes) :
    littleEndian bytes.length (ofLittleEndian bytes) = bytes := by
  induction bytes with
  | nil => rfl
  | cons b bytes ih =>
    have low : UInt8.ofNat (b.toNat + 256 * ofLittleEndian bytes) = b := by
      apply UInt8.toNat_inj.1
      have small := b.toNat_lt
      simp only [UInt8.toNat_ofNat']
      omega
    have high : (b.toNat + 256 * ofLittleEndian bytes) / 256 = ofLittleEndian bytes := by
      have small := b.toNat_lt
      omega
    rw [List.length_cons, littleEndian, ofLittleEndian, low, high, ih]

/-- Is what its low bytes say. -/
def FitsWidth (width n : Nat) : Prop := ofLittleEndian (littleEndian width n) = n

theorem fitsWidth_succ {width n : Nat} (h : FitsWidth width (n / 256)) :
    FitsWidth (width + 1) n := by
  unfold FitsWidth at *
  rw [littleEndian, ofLittleEndian, h]
  simp only [UInt8.toNat_ofNat']
  omega

theorem fitsWidth_four {n : Nat} : FitsWidth 4 n ↔ n < UInt32.size := by
  constructor
  · intro h
    simp only [FitsWidth, littleEndian, ofLittleEndian, UInt8.toNat_ofNat'] at h
    simp only [UInt32.size]
    omega
  · intro small
    have none_left : n / 256 / 256 / 256 / 256 = 0 := by
      simp only [UInt32.size] at small
      omega
    exact fitsWidth_succ (fitsWidth_succ (fitsWidth_succ (fitsWidth_succ none_left.symm)))

theorem fitsWidth_eight {n : Nat} : FitsWidth 8 n ↔ n < UInt64.size := by
  constructor
  · intro h
    simp only [FitsWidth, littleEndian, ofLittleEndian, UInt8.toNat_ofNat'] at h
    simp only [UInt64.size]
    omega
  · intro small
    have low : n / 256 / 256 / 256 / 256 < UInt32.size := by
      simp only [UInt64.size] at small
      simp only [UInt32.size]
      omega
    exact fitsWidth_succ (fitsWidth_succ (fitsWidth_succ (fitsWidth_succ (fitsWidth_four.2 low))))

def stored (s : String) : Bytes := (utf8 s).take maxLength

theorem fitsWidth_length_stored (s : String) : FitsWidth 4 (stored s).length := by
  refine fitsWidth_four.2 (Nat.lt_of_le_of_lt (List.length_take_le ..) ?_)
  decide

theorem stored_eq_of_le {s : String} (h : (utf8 s).length ≤ maxLength) : stored s = utf8 s :=
  List.take_of_length_le h

theorem ofUtf8?_stored_of_le {s : String} (h : (utf8 s).length ≤ maxLength) :
    ofUtf8? (stored s) = some s := by
  rw [stored_eq_of_le h, ofUtf8?_utf8]

end Codec

namespace Grammar

open Codec

def word (width : Nat) : Grammar (Codec.word width) where
  places n := (littleEndian width n).map .exactly
  Fits := FitsWidth width
  written n := by simp [Codec.word, Function.comp_def, Place.written]
  accepts {n} _ fits spelled rest := by
    cases spells_exactly.1 spelled
    exact Reader.map_eq_some_iff.2 ⟨littleEndian width n,
      Reader.take_eq_some_iff.2 ⟨rfl, length_littleEndian width n⟩, fits⟩
  accepted taken := by
    obtain ⟨used, front, rfl⟩ := Reader.map_eq_some_iff.1 taken
    obtain ⟨rfl, rfl⟩ := Reader.take_eq_some_iff.1 front
    have same := littleEndian_ofLittleEndian used
    exact ⟨congrArg ofLittleEndian same, used, rfl, spells_exactly.2 same.symm⟩

def word32 : Grammar Codec.word32 :=
  ((word 4).as UInt32.ofNat UInt32.toNat
    (fun _ fits => UInt32.toNat_ofNat_of_lt' (fitsWidth_four.1 fits))
    (fun _ => UInt32.ofNat_toNat)).total fun w => fitsWidth_four.2 w.toNat_lt

def word64 : Grammar Codec.word64 :=
  ((word 8).as UInt64.ofNat UInt64.toNat
    (fun _ fits => UInt64.toNat_ofNat_of_lt' (fitsWidth_eight.1 fits))
    (fun _ => UInt64.ofNat_toNat)).total fun w => fitsWidth_eight.2 w.toNat_lt

def flag : Grammar Codec.flag where
  places b := [if b then .nonzero else .exactly 0]
  Fits _ := True
  written b := by cases b <;> rfl
  accepts {b} used _ spelled rest := by
    obtain ⟨c, _, admits, ends, rfl⟩ := List.forall₂_cons_left_iff.1 spelled
    cases List.forall₂_nil_left_iff.1 ends
    refine Reader.map_eq_some_iff.2 ⟨c, rfl, ?_⟩
    cases b with
    | false => simpa using (show c = 0 from admits)
    | true => simpa using (show c ≠ 0 from admits)
  accepted {b bytes rest} taken := by
    obtain ⟨c, front, rfl⟩ := Reader.map_eq_some_iff.1 taken
    refine ⟨trivial, [c], Reader.byte_eq_some_iff.1 front, .cons ?_ .nil⟩
    by_cases zero : c = 0 <;> simp [zero, Place.Admits]

/-- The members of the list stand in it once, at places that fit a byte. -/
def choice [BEq α] [LawfulBEq α] (all : List α) (complete : ∀ a, a ∈ all) (nodup : all.Nodup)
    (short : all.length ≤ 256) : Grammar (Codec.choice all) where
  places a := [UInt8.ofNat (all.idxOf a)].map .exactly
  Fits _ := True
  written _ := rfl
  accepts {a} used _ spelled rest := by
    cases spells_exactly.1 spelled
    have inside : all.idxOf a < all.length := List.idxOf_lt_length_of_mem (complete a)
    refine Reader.bind_eq_some_iff.2 ⟨_, rest, rfl, Reader.ofOption_eq_some_iff.2 ⟨?_, rfl⟩⟩
    have same : (UInt8.ofNat (all.idxOf a)).toNat = all.idxOf a := by
      simp only [UInt8.toNat_ofNat']
      omega
    rw [same, List.getElem?_eq_getElem inside, List.getElem_idxOf]
  accepted {a bytes rest} taken := by
    obtain ⟨b, middle, front, found⟩ := Reader.bind_eq_some_iff.1 taken
    obtain ⟨at_b, rfl⟩ := Reader.ofOption_eq_some_iff.1 found
    obtain ⟨inside, rfl⟩ := List.getElem?_eq_some_iff.1 at_b
    refine ⟨trivial, [b], Reader.byte_eq_some_iff.1 front, ?_⟩
    rw [nodup.idxOf_getElem, UInt8.ofNat_toNat]
    exact spells_exactly.2 rfl

theorem exists_spells_word32 {bytes : Bytes} (h : bytes.length = 4) :
    ∃ w, Spells (word32.places w) bytes := by
  have same := littleEndian_ofLittleEndian bytes
  rw [h] at same
  have fits : FitsWidth 4 (ofLittleEndian bytes) := congrArg ofLittleEndian same
  refine ⟨UInt32.ofNat (ofLittleEndian bytes), spells_exactly.2 ?_⟩
  rw [UInt32.toNat_ofNat_of_lt' (fitsWidth_four.1 fits), same]

/-- Without a word, the bytes in its place may be anything. -/
def optionalWord32 : Grammar Codec.optionalWord32 where
  places
    | none => .exactly 0 :: List.replicate 4 .anything
    | some w => .nonzero :: word32.places w
  Fits _ := True
  written w? := by
    cases w? with
    | none => rfl
    | some w => exact congrArg (List.cons 1) (word32.written w)
  accepts {w?} used _ spelled rest := by
    cases w? with
    | none =>
      obtain ⟨front, back, rfl, spells_front, spells_back⟩ :=
        Spells.split (p := [.exactly 0]) spelled
      obtain ⟨w, spells_word⟩ := exists_spells_word32 (spells_anything.1 spells_back)
      have read := (flag.both word32).accepts (a := (false, w)) ⟨trivial, trivial⟩
        (spells_front.append spells_word) rest
      exact Reader.map_eq_some_iff.2 ⟨(false, w), read, rfl⟩
    | some w =>
      have read := (flag.both word32).accepts (a := (true, w)) ⟨trivial, trivial⟩ spelled rest
      exact Reader.map_eq_some_iff.2 ⟨(true, w), read, rfl⟩
  accepted {w? bytes rest} taken := by
    obtain ⟨⟨present, w⟩, read, rfl⟩ := Reader.map_eq_some_iff.1 taken
    obtain ⟨-, used, rfl, spelled⟩ := (flag.both word32).accepted read
    refine ⟨trivial, used, rfl, ?_⟩
    cases present with
    | false =>
      obtain ⟨front, back, rfl, spells_front, spells_back⟩ :=
        Spells.split (p := [.exactly 0]) spelled
      exact spells_front.append (spells_anything.2 spells_back.length_eq.symm)
    | true => exact spelled

def text : Grammar Codec.text where
  places s := (word 4).places (stored s).length ++ (stored s).map .exactly
  Fits s := (utf8 s).length ≤ maxLength
  written s := by
    rw [List.map_append, (word 4).written, List.map_map]
    simp [Function.comp_def, Place.written, Codec.text, stored]
  accepts {s} used fits spelled rest := by
    obtain ⟨front, bytes, rfl, spells_front, spells_bytes⟩ := spelled.split
    cases spells_exactly.1 spells_bytes
    refine Reader.bind_eq_some_iff.2 ⟨(stored s).length, stored s ++ rest, ?_, ?_⟩
    · rw [List.append_assoc]
      exact (word 4).accepts (fitsWidth_length_stored s) spells_front _
    refine Reader.bind_eq_some_iff.2 ⟨stored s, rest, ?_, ?_⟩
    · exact Reader.take_eq_some_iff.2 ⟨rfl, rfl⟩
    · exact Reader.ofOption_eq_some_iff.2 ⟨ofUtf8?_stored_of_le fits, rfl⟩
  accepted {s bytes rest} taken := by
    obtain ⟨length, middle, front, taken⟩ := Reader.bind_eq_some_iff.1 taken
    obtain ⟨used, rest, back, found⟩ := Reader.bind_eq_some_iff.1 taken
    obtain ⟨is_text, rfl⟩ := Reader.ofOption_eq_some_iff.1 found
    obtain ⟨rfl, rfl⟩ := Reader.take_eq_some_iff.1 back
    cases utf8_of_ofUtf8? is_text
    obtain ⟨fits, lengthBytes, rfl, spelled⟩ := (word 4).accepted front
    have short : (utf8 s).length ≤ maxLength := Nat.le_sub_one_of_lt (fitsWidth_four.1 fits)
    rw [stored_eq_of_le short]
    exact ⟨short, lengthBytes ++ utf8 s, (List.append_assoc ..).symm,
      spelled.append (spells_exactly.2 rfl)⟩

end Grammar

namespace Codec

theorem read_write_text (s : String) (rest : Bytes) :
    text.read (text.write s ++ rest) = (ofUtf8? (stored s)).map (·, rest) := by
  have length_read := (Grammar.word 4).read_write (fitsWidth_length_stored s) (stored s ++ rest)
  have bytes_read : Reader.take (stored s).length (stored s ++ rest) = some (stored s, rest) :=
    Reader.take_eq_some_iff.2 ⟨rfl, rfl⟩
  rw [show text.write s ++ rest = _ from List.append_assoc ..]
  exact (Reader.bind_of_some length_read).trans (Reader.bind_of_some bytes_read)

/-- What is read back of a pair, by what is read back of its second part. -/
theorem read_write_both {first : Codec α} {second : Codec β} (g : Grammar first) {a : α} {b : β}
    (fits : g.Fits a) {b? : Option β}
    (last : ∀ rest, second.read (second.write b ++ rest) = b?.map (·, rest)) (rest : Bytes) :
    (first.both second).read ((first.both second).write (a, b) ++ rest) =
      (b?.map (a, ·)).map (·, rest) := by
  rw [show (first.both second).write (a, b) ++ rest = _ from List.append_assoc ..]
  refine (Reader.bind_of_some (g.read_write fits _)).trans ?_
  show Option.bind _ _ = _
  rw [last]
  cases b? <;> rfl

end Codec

end Wallpaper.Wire
