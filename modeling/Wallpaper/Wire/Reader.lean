/-! Reading from the front of a byte sequence. A reader either takes some bytes and gives back
the rest, or fails; it never looks behind its start, so readers compose by running one on what
the other left. -/
namespace Wallpaper.Wire

abbrev Bytes := List UInt8

abbrev Reader (α : Type) := StateT Bytes Option α

namespace Reader

def byte : Reader UInt8
  | [] => none
  | b :: rest => some (b, rest)

/-- Takes the given number of bytes, all or none. -/
def take (count : Nat) : Reader Bytes := fun bytes =>
  if count ≤ bytes.length then some (bytes.take count, bytes.drop count) else none

def ofOption (a? : Option α) : Reader α := fun bytes => a?.map (·, bytes)

/-- What a reader leaves is a tail of what it was given. -/
def TakesFront (read : Reader α) : Prop :=
  ∀ {bytes a rest}, read bytes = some (a, rest) → ∃ used, bytes = used ++ rest

theorem takesFront_byte : TakesFront byte := by
  intro bytes a rest taken
  cases bytes with
  | nil => cases taken
  | cons b tail =>
    cases taken
    exact ⟨[a], rfl⟩

theorem takesFront_take (count : Nat) : TakesFront (take count) := by
  intro bytes a rest taken
  simp only [take] at taken
  split at taken
  · cases taken
    exact ⟨bytes.take count, (List.take_append_drop count bytes).symm⟩
  · cases taken

theorem takesFront_ofOption (a? : Option α) : TakesFront (ofOption a?) := by
  intro bytes a rest taken
  cases a? with
  | none => cases taken
  | some a => cases taken; exact ⟨[], rfl⟩

theorem takesFront_pure (a : α) : TakesFront (pure a) := takesFront_ofOption (some a)

theorem takesFront_bind {read : Reader α} {next : α → Reader β}
    (first : TakesFront read) (second : ∀ a, TakesFront (next a)) :
    TakesFront (read >>= next) := by
  intro bytes b rest taken
  obtain ⟨⟨a, middle⟩, taken_first, taken_second⟩ := Option.bind_eq_some_iff.1 taken
  obtain ⟨used, rfl⟩ := first taken_first
  obtain ⟨more, rfl⟩ := second a taken_second
  exact ⟨used ++ more, (List.append_assoc ..).symm⟩

theorem takesFront_map (f : α → β) {read : Reader α} (h : TakesFront read) :
    TakesFront (f <$> read) :=
  takesFront_bind h fun a => takesFront_pure (f a)

theorem TakesFront.length_le {read : Reader α} (h : TakesFront read) {bytes rest : Bytes} {a : α}
    (taken : read bytes = some (a, rest)) : rest.length ≤ bytes.length := by
  obtain ⟨used, rfl⟩ := h taken
  simp

end Reader

end Wallpaper.Wire
