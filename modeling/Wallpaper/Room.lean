import Wallpaper.Wire.Utf8

/-! Writing to a place of limited size. A place takes bytes until it is full; the piece that
crosses the limit is stored as far as it fits and fails, and so does every later piece. -/
namespace Wallpaper

open Wire

/-- How many more bytes a place takes. -/
inductive Room where
  | unlimited
  | bytes (left : Nat)

/-- What came of writing: the bytes that were stored, the room behind them, and whether all
that was to be written is stored. -/
structure Written where
  stored : Bytes
  room : Room
  complete : Bool

namespace Room

/-- Stores one piece, or as much of it as fits. -/
def store : Room → Bytes → Written
  | unlimited, piece => ⟨piece, unlimited, true⟩
  | bytes left, piece =>
    if piece.length ≤ left then ⟨piece, bytes (left - piece.length), true⟩
    else ⟨piece.take left, bytes 0, false⟩

/-- Writes pieces in order and gives up at the first that fails. -/
def write (room : Room) : List String → Written
  | [] => ⟨[], room, true⟩
  | piece :: rest =>
    let first := room.store (utf8 piece)
    if first.complete then
      let others := first.room.write rest
      { others with stored := first.stored ++ others.stored }
    else first

theorem write_unlimited (pieces : List String) :
    unlimited.write pieces = ⟨utf8 (String.join pieces), unlimited, true⟩ := by
  induction pieces with
  | nil => rfl
  | cons piece rest ih => simp [write, store, ih, utf8_append]

/-- However the text is cut into pieces, its front is stored as far as there is room. -/
theorem write_bytes (left : Nat) (pieces : List String) :
    let text := utf8 (String.join pieces)
    (bytes left).write pieces =
      ⟨text.take left, bytes (left - text.length), text.length ≤ left⟩ := by
  induction pieces generalizing left with
  | nil => simp [write, utf8]
  | cons piece rest ih =>
    rw [String.join_cons, utf8_append, write, store]
    by_cases fits : (utf8 piece).length ≤ left
    · rw [if_pos fits, if_pos rfl, ih]
      simp only [List.take_append, List.take_of_length_le fits, List.length_append, Nat.sub_sub]
      have both : (utf8 (String.join rest)).length ≤ left - (utf8 piece).length ↔
          (utf8 piece).length + (utf8 (String.join rest)).length ≤ left := by omega
      rw [decide_eq_decide.2 both]
    · rw [if_neg fits]
      have crossed : left ≤ (utf8 piece).length := by omega
      have full : left - ((utf8 piece).length + (utf8 (String.join rest)).length) = 0 := by omega
      have cut : ¬ (utf8 piece).length + (utf8 (String.join rest)).length ≤ left := by omega
      simp [List.take_append_of_le_length crossed, full, cut]

end Room

/-- What takes bytes piece by piece. Each piece changes it, and may fail with an error of its
own. -/
abbrev Writer (ε σ : Type) := Bytes → EStateM ε σ Unit

namespace Writer

/-- Hands over pieces in order, up to the first that fails. -/
def writeAll (writer : Writer ε σ) (pieces : List String) : EStateM ε σ Unit :=
  pieces.forM fun piece => writer (utf8 piece)

/-- The end of writing behind what was stored before, with the error where it is not complete. -/
def ending (error : ε) (before : Bytes) (written : Written) :
    EStateM.Result ε (Bytes × Room) Unit :=
  let place := (before ++ written.stored, written.room)
  if written.complete then .ok () place else .error error place

/-- Keeps what there is room for, and fails with its error where the room ends. -/
def limited (error : ε) : Writer ε (Bytes × Room) := fun piece (before, room) =>
  ending error before (room.store piece)

end Writer

end Wallpaper
