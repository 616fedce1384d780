import Mathlib.Data.List.TakeWhile
import Wallpaper.Proofs.Recording.RoundTrip

/-! Recording texts of any length. A record keeps as many bytes of its text as a length prefix can
count. Where these end with a character, a front of the text comes back and nothing else is lost.
Where they end inside one they are no text, and the reader stops at this record for good. -/
namespace Wallpaper

open Wire

def Detail.withReason (d : Detail) (reason : String) : Detail :=
  match d with
  | .hide hidden _ members => .hide hidden reason members
  | d => d

def Event.withReason (e : Event) (reason : String) : Event :=
  { e with detail := e.detail.withReason reason }

@[simp] theorem Detail.withReason_reason (d : Detail) : d.withReason d.reason = d := by
  cases d <;> rfl

@[simp] theorem Event.withReason_reason (e : Event) : e.withReason e.detail.reason = e := by
  rw [withReason, Detail.withReason_reason]

/-- What comes back of a recorded event: all of it if its text fits, else all but an end of this
text, with as many bytes left as a length prefix can count. -/
inductive Event.ReadBackAs (e : Event) : Event → Prop
  | whole (fits : e.Fits) : e.ReadBackAs e
  | cut (kept tail : String) (overlong : ¬ e.Fits) (split : e.detail.reason = kept ++ tail)
      (full : (utf8 kept).length = Codec.maxLength) : e.ReadBackAs (e.withReason kept)

instance (e : Event) : Decidable e.Legible :=
  decidable_of_iff (ofUtf8? (Codec.stored e.detail.reason)).isSome Option.isSome_iff_exists

namespace Event

/-- What a record keeps of a text that does not fit is a text only between two characters. -/
theorem exists_split_of_stored {e : Event} {kept : String} (overlong : ¬ e.Fits)
    (is_text : ofUtf8? (Codec.stored e.detail.reason) = some kept) :
    ∃ tail, e.detail.reason = kept ++ tail ∧ (utf8 kept).length = Codec.maxLength := by
  have bytes : utf8 kept = Codec.stored e.detail.reason := utf8_of_ofUtf8? is_text
  have front : utf8 kept <+: utf8 e.detail.reason := bytes.symm ▸ List.take_prefix _ _
  obtain ⟨tail, split⟩ := exists_eq_append_of_prefix front
  refine ⟨tail, split, ?_⟩
  rw [bytes]
  exact List.length_take_of_le (Nat.le_of_not_le overlong)

theorem legible_iff {e : Event} :
    e.Legible ↔ e.Fits ∨
      ∃ kept tail, e.detail.reason = kept ++ tail ∧ (utf8 kept).length = Codec.maxLength := by
  constructor
  · rintro ⟨kept, is_text⟩
    exact or_iff_not_imp_left.2 fun overlong => ⟨kept, exists_split_of_stored overlong is_text⟩
  · rintro (fits | ⟨kept, tail, split, full⟩)
    · exact fits.legible
    · refine ⟨kept, ?_⟩
      rw [Codec.stored, split, utf8_append, List.take_left' full, ofUtf8?_utf8]

theorem not_legible_iff {e : Event} : ¬ e.Legible ↔
    Codec.maxLength < (utf8 e.detail.reason).length ∧
      ofUtf8? (Codec.stored e.detail.reason) = none := by
  rw [Legible, ← Option.isSome_iff_exists, Bool.not_eq_true, Option.isSome_eq_false_iff,
    Option.isNone_iff_eq_none]
  refine iff_and_self.2 fun is_none => ?_
  by_contra short
  rw [Codec.ofUtf8?_stored_of_le (Nat.le_of_not_lt short)] at is_none
  cases is_none

theorem readBackAs_of_stored {e : Event} {kept : String}
    (is_text : ofUtf8? (Codec.stored e.detail.reason) = some kept) :
    e.ReadBackAs (e.withReason kept) := by
  by_cases fits : e.Fits
  · rw [Codec.ofUtf8?_stored_of_le fits] at is_text
    cases is_text
    rw [withReason_reason]
    exact .whole fits
  · obtain ⟨tail, split, full⟩ := exists_split_of_stored fits is_text
    exact .cut kept tail fits split full

end Event

namespace Recording

theorem read_write_hide (hidden : Bool) (members : UInt32) (reason : String) (rest : Bytes) :
    hide.read (hide.write (hidden, members, reason) ++ rest) =
      (ofUtf8? (Codec.stored reason)).map fun kept => ((hidden, members, kept), rest) := by
  have both := Codec.read_write_both Grammar.flag (a := hidden) trivial
    (Codec.read_write_both Grammar.word32 (a := members) trivial (Codec.read_write_text reason))
  rw [hide, both rest]
  simp only [Option.map_map, Function.comp_def]

theorem readDetail_writeDetail (d : Detail) (rest : Bytes) :
    readDetail (tag d) (writeDetail d ++ rest) =
      (ofUtf8? (Codec.stored d.reason)).map fun kept => (d.withReason kept, rest) := by
  by_cases fits : (utf8 d.reason).length ≤ Codec.maxLength
  · rw [readDetail_tag fits (written_detailPlaces d ▸ spells_written _),
      Codec.ofUtf8?_stored_of_le fits, Option.map_some, Detail.withReason_reason]
  · cases d with
    | hide hidden reason members =>
      show ((fun p => Detail.hide p.1 p.2.2 p.2.1) <$> hide.read) (hide.write _ ++ rest) = _
      rw [Reader.map_apply, read_write_hide, Option.map_map]
      rfl
    | _ => exact absurd utf8_empty_le fits

/-- What the reader makes of a written event, whatever follows it. -/
theorem read_write (e : Event) (rest : Bytes) :
    event.read (event.write e ++ rest) =
      (ofUtf8? (Codec.stored e.detail.reason)).map fun kept => (e.withReason kept, rest) := by
  have bytes : event.write e ++ rest =
      tag e.detail :: (header.write e.toHeader ++ (writeDetail e.detail ++ rest)) :=
    congrArg (List.cons _) (List.append_assoc ..)
  rw [bytes]
  refine (Reader.bind_of_some rfl).trans ?_
  rw [readBody, Reader.bind_of_some (headerGrammar.read_write trivial _), Reader.map_apply,
    readDetail_writeDetail, Option.map_map]
  rfl

theorem encode_cons (e : Event) (events : List Event) :
    encode (e :: events) = event.write e ++ encode events := List.flatMap_cons

theorem decode_encode_takeWhile (events : List Event) :
    List.Forall₂ Event.ReadBackAs (events.takeWhile (·.Legible)) (decode (encode events)) := by
  induction events with
  | nil =>
    rw [show decode (encode []) = [] from decode_eq_nil rfl]
    exact .nil
  | cons e events ih =>
    have read := read_write e (encode events)
    by_cases legible : e.Legible
    · obtain ⟨kept, is_text⟩ := id legible
      rw [is_text] at read
      rw [List.takeWhile_cons_of_pos (by simpa using legible), encode_cons, decode_of_read read]
      exact .cons (Event.readBackAs_of_stored is_text) ih
    -- The reader refuses this record, and nothing behind it is looked at.
    · rw [Option.eq_none_iff_forall_ne_some.2 fun kept is_text => legible ⟨kept, is_text⟩] at read
      rw [List.takeWhile_cons_of_neg (by simpa using legible), encode_cons, decode_eq_nil read]
      exact .nil

/-- Up to the first event whose text is cut inside a character, every event comes back, with no
more lost than the end of an overlong text; this event and all behind it are lost. -/
theorem decode_recorded_takeWhile (events : List Event) :
    List.Forall₂ Event.ReadBackAs (events.takeWhile (·.Legible)) (decode (recorded events)) ∧
      ((decode (recorded events)).length = events.length ↔ ∀ e ∈ events, e.Legible) := by
  rw [recorded_eq_encode]
  have kept := decode_encode_takeWhile events
  refine ⟨kept, ?_⟩
  rw [← kept.length_eq]
  constructor
  · intro same_length
    have whole := (List.takeWhile_prefix _).eq_of_length same_length
    simpa using List.takeWhile_eq_self_iff.1 whole
  · intro legible
    rw [List.takeWhile_eq_self_iff.2 (by simpa using legible)]

/-- A text of characters of two bytes. -/
def accents (n : Nat) : String := String.ofList (List.replicate n 'é')

theorem length_accents (n : Nat) : (utf8 (accents n)).length = 2 * n := by
  induction n with
  | zero => rfl
  | succ n ih =>
    have one_more : accents (n + 1) = "é" ++ accents n := by
      rw [accents, List.replicate_succ, ← List.singleton_append, String.ofList_append]
      rfl
    have two_bytes : (utf8 "é").length = 2 := by decide
    rw [one_more, utf8_append, List.length_append, ih, two_bytes]
    omega

/-- The number of bytes that a record keeps is odd, and no front of the text has as many. -/
theorem not_legible_accents {e : Event} {n : Nat} (reason : e.detail.reason = accents n)
    (overlong : Codec.maxLength < 2 * n) : ¬ e.Legible := by
  intro legible
  rcases Event.legible_iff.1 legible with fits | ⟨kept, tail, split, full⟩
  · rw [Event.Fits, reason, length_accents] at fits
    omega
  · have characters := congrArg String.toList (reason.symm.trans split)
    rw [accents, String.toList_ofList, String.toList_append] at characters
    obtain ⟨-, front, -⟩ := List.append_eq_replicate_iff.1 characters.symm
    have kept_accents : kept = accents kept.toList.length := by
      rw [accents, ← front, String.ofList_toList]
    rw [kept_accents, length_accents] at full
    have odd : Codec.maxLength % 2 = 1 := by decide
    omega

/-- A hide with a text of `n` accents, and an exit behind it. -/
def hideAndExit (n : Nat) : List Event :=
  [⟨⟨⟨0⟩, ⟨1⟩, 0⟩, .hide true (accents n) 0⟩, ⟨⟨⟨0⟩, ⟨1⟩, 1⟩, .exit 0⟩]

theorem decode_recorded_hideAndExit {n : Nat} (overlong : Codec.maxLength < 2 * n) :
    decode (recorded (hideAndExit n)) = [] := by
  have kept := decode_encode_takeWhile (hideAndExit n)
  rw [← recorded_eq_encode, hideAndExit, List.takeWhile_cons_of_neg] at kept
  · exact List.forall₂_nil_left_iff.1 kept
  · simpa using not_legible_accents rfl overlong

/-- The text is one byte too long, and its last character costs the whole recording. -/
theorem decode_recorded_overlong :
    (utf8 (accents 2147483648)).length = UInt32.size ∧
      decode (recorded (hideAndExit 2147483648)) = [] := by
  have overlong : Codec.maxLength < 2 * 2147483648 := by decide
  exact ⟨length_accents _, decode_recorded_hideAndExit overlong⟩

end Recording

end Wallpaper
