import Mathlib.Data.List.Forall2
import Wallpaper.Wire.Codec

/-! Which bytes stand for a value, said without a reader. The bytes of a value fill a sequence of
places. Most places hold one fixed byte; a true flag is any byte but zero, and a word that nobody
looks at may be anything. A grammar gives the places of every value of a codec, and shows that the
writer fills them in one way and that the reader takes just the bytes that fill them. -/
namespace Wallpaper.Wire

inductive Place where
  | exactly (b : UInt8)
  | nonzero
  | anything
deriving DecidableEq

namespace Place

def Admits : Place → UInt8 → Prop
  | exactly b, c => c = b
  | nonzero, c => c ≠ 0
  | anything, _ => True

def written : Place → UInt8
  | exactly b => b
  | nonzero => 1
  | anything => 0

theorem admits_written (p : Place) : p.Admits p.written := by
  cases p with
  | exactly b => exact rfl
  | nonzero => exact (by decide : (1 : UInt8) ≠ 0)
  | anything => exact trivial

end Place

/-- The bytes fill the places, one each. -/
def Spells (places : List Place) (bytes : Bytes) : Prop := List.Forall₂ Place.Admits places bytes

theorem spells_written (places : List Place) : Spells places (places.map Place.written) :=
  List.forall₂_map_right_iff.2 (List.forall₂_same.2 fun p _ => p.admits_written)

theorem spells_exactly {bs bytes : Bytes} : Spells (bs.map Place.exactly) bytes ↔ bytes = bs := by
  induction bs generalizing bytes with
  | nil => exact List.forall₂_nil_left_iff
  | cons b bs ih =>
    cases bytes with
    | nil => simp [Spells]
    | cons c bytes =>
      rw [List.map_cons, Spells, List.forall₂_cons, List.cons.injEq]
      exact and_congr Iff.rfl ih

theorem spells_anything {n : Nat} {bytes : Bytes} :
    Spells (List.replicate n .anything) bytes ↔ bytes.length = n := by
  constructor
  · intro h
    simpa using h.length_eq.symm
  · rintro rfl
    induction bytes with
    | nil => exact .nil
    | cons b bytes ih => exact .cons trivial ih

theorem Spells.append {p q : List Place} {b c : Bytes} (hp : Spells p b) (hq : Spells q c) :
    Spells (p ++ q) (b ++ c) :=
  List.rel_append hp hq

theorem Spells.split {p q : List Place} {bytes : Bytes} (h : Spells (p ++ q) bytes) :
    ∃ b c, bytes = b ++ c ∧ Spells p b ∧ Spells q c := by
  refine ⟨bytes.take p.length, bytes.drop p.length, (List.take_append_drop _ _).symm, ?_, ?_⟩
  · simpa [Spells] using List.forall₂_take p.length h
  · simpa [Spells] using List.forall₂_drop p.length h

namespace Reader

theorem bind_of_some {read : Reader α} {next : α → Reader β} {bytes rest : Bytes} {a : α}
    (taken : read bytes = some (a, rest)) : (read >>= next) bytes = next a rest := by
  show Option.bind _ _ = _
  rw [taken]
  rfl

theorem map_apply (f : α → β) (read : Reader α) (bytes : Bytes) :
    (f <$> read) bytes = (read bytes).map fun p => (f p.1, p.2) := by
  show Option.bind _ _ = _
  cases read bytes <;> rfl

theorem bind_eq_some_iff {read : Reader α} {next : α → Reader β} {bytes rest : Bytes} {b : β} :
    (read >>= next) bytes = some (b, rest) ↔
      ∃ a middle, read bytes = some (a, middle) ∧ next a middle = some (b, rest) := by
  constructor
  · intro h
    obtain ⟨⟨a, middle⟩, first, second⟩ := Option.bind_eq_some_iff.1 h
    exact ⟨a, middle, first, second⟩
  · rintro ⟨a, middle, first, second⟩
    exact Option.bind_eq_some_iff.2 ⟨(a, middle), first, second⟩

theorem map_eq_some_iff {read : Reader α} {f : α → β} {bytes rest : Bytes} {b : β} :
    (f <$> read) bytes = some (b, rest) ↔ ∃ a, read bytes = some (a, rest) ∧ f a = b := by
  rw [show f <$> read = read >>= fun a => pure (f a) from rfl, bind_eq_some_iff]
  constructor
  · rintro ⟨a, middle, first, second⟩
    cases Option.some.inj second
    exact ⟨a, first, rfl⟩
  · rintro ⟨a, first, rfl⟩
    exact ⟨a, rest, first, rfl⟩

theorem ofOption_eq_some_iff {a? : Option α} {bytes rest : Bytes} {a : α} :
    ofOption a? bytes = some (a, rest) ↔ a? = some a ∧ bytes = rest := by
  cases a? <;> simp [ofOption]

theorem take_eq_some_iff {count : Nat} {bytes used rest : Bytes} :
    take count bytes = some (used, rest) ↔ bytes = used ++ rest ∧ used.length = count := by
  unfold take
  constructor
  · intro h
    split at h
    · cases Option.some.inj h
      rename_i enough
      exact ⟨(List.take_append_drop _ _).symm, List.length_take_of_le enough⟩
    · cases h
  · rintro ⟨rfl, rfl⟩
    simp

theorem byte_eq_some_iff {bytes rest : Bytes} {b : UInt8} :
    byte bytes = some (b, rest) ↔ bytes = b :: rest := by
  cases bytes <;> simp [byte]

end Reader

/-- The places of every value of a codec. The reader goes by them and by nothing else, except that
it cannot give back a value that does not fit its places. -/
structure Grammar (codec : Codec α) where
  places : α → List Place
  Fits : α → Prop
  written (a : α) : (places a).map Place.written = codec.write a
  accepts {a : α} {used : Bytes} (fits : Fits a) (spelled : Spells (places a) used)
    (rest : Bytes) : codec.read (used ++ rest) = some (a, rest)
  accepted {a : α} {bytes rest : Bytes} (taken : codec.read bytes = some (a, rest)) :
    Fits a ∧ ∃ used, bytes = used ++ rest ∧ Spells (places a) used

namespace Grammar

open Codec

theorem read_write {codec : Codec α} (g : Grammar codec) {a : α} (fits : g.Fits a)
    (rest : Bytes) : codec.read (codec.write a ++ rest) = some (a, rest) :=
  g.accepts fits (g.written a ▸ spells_written _) rest

def both {first : Codec α} {second : Codec β} (g : Grammar first) (h : Grammar second) :
    Grammar (first.both second) where
  places p := g.places p.1 ++ h.places p.2
  Fits p := g.Fits p.1 ∧ h.Fits p.2
  written p := by simp [g.written, h.written, Codec.both]
  accepts {p} _ fits spelled rest := by
    obtain ⟨b, c, rfl, hb, hc⟩ := spelled.split
    refine Reader.bind_eq_some_iff.2 ⟨p.1, c ++ rest, ?_, ?_⟩
    · rw [List.append_assoc]
      exact g.accepts fits.1 hb _
    · exact Reader.bind_eq_some_iff.2 ⟨p.2, rest, h.accepts fits.2 hc rest, rfl⟩
  accepted taken := by
    obtain ⟨a, middle, ha, taken⟩ := Reader.bind_eq_some_iff.1 taken
    obtain ⟨b, rest, hb, out⟩ := Reader.bind_eq_some_iff.1 taken
    cases Option.some.inj out
    obtain ⟨fits_a, used, rfl, spelled⟩ := g.accepted ha
    obtain ⟨fits_b, more, rfl, spelled_more⟩ := h.accepted hb
    exact ⟨⟨fits_a, fits_b⟩, used ++ more, (List.append_assoc ..).symm,
      spelled.append spelled_more⟩

def as {codec : Codec α} (g : Grammar codec) (wrap : α → β) (unwrap : β → α)
    (unwrap_wrap : ∀ a, g.Fits a → unwrap (wrap a) = a) (wrap_unwrap : ∀ b, wrap (unwrap b) = b) :
    Grammar (codec.as wrap unwrap) where
  places b := g.places (unwrap b)
  Fits b := g.Fits (unwrap b)
  written b := g.written (unwrap b)
  accepts {b} _ fits spelled rest :=
    Reader.map_eq_some_iff.2 ⟨unwrap b, g.accepts fits spelled rest, wrap_unwrap b⟩
  accepted taken := by
    obtain ⟨a, ha, rfl⟩ := Reader.map_eq_some_iff.1 taken
    have h := g.accepted ha
    rwa [unwrap_wrap a h.1]

def total {codec : Codec α} (g : Grammar codec) (all : ∀ a, g.Fits a) : Grammar codec where
  places := g.places
  Fits _ := True
  written := g.written
  accepts _ := g.accepts (all _)
  accepted taken := ⟨trivial, (g.accepted taken).2⟩

end Grammar

end Wallpaper.Wire
