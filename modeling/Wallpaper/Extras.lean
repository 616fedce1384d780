import Wallpaper.Binary.Basic
import Wallpaper.Wire.Utf8

/-! What a command may carry besides its position: values by key, kept in the order of the keys'
bytes, so that equal contents are equal lists. -/
namespace Wallpaper

open Wire

inductive Extra where
  | bool (value : Bool)
  | int (value : Int64)
  | float (value : Double)
  | text (value : String)
deriving DecidableEq

namespace Extra

/-- Numbers are compared as numbers, all else by identity. -/
def equal : Extra → Extra → Bool
  | bool a, bool b => a == b
  | int a, int b => a == b
  | float a, float b => a.equal b
  | text a, text b => a == b
  | _, _ => false

end Extra

abbrev Extras.Entry := String × Extra

/-- Comes before in the order of keys. -/
abbrev Extras.Entry.Before (a b : Entry) : Prop := utf8 a.1 < utf8 b.1

structure Extras where
  entries : List Extras.Entry
  ascending : entries.Pairwise Extras.Entry.Before
deriving DecidableEq

namespace Extras

def empty : Extras := ⟨[], .nil⟩

def get? (extras : Extras) (key : String) : Option Extra := extras.entries.lookup key

def size (extras : Extras) : Nat := extras.entries.length

def isEmpty (extras : Extras) : Bool := extras.entries.isEmpty

/-- Puts an entry into its place, where it takes over from an entry with its key. Also gives
the value that the other entry had. -/
def insertEntry (entry : Entry) : List Entry → Option Extra × List Entry
  | [] => (none, [entry])
  | first :: rest =>
    if entry.Before first then (none, entry :: first :: rest)
    else if first.Before entry then
      let (replaced, rest) := insertEntry entry rest
      (replaced, first :: rest)
    else (some first.2, entry :: rest)

theorem mem_insertEntry {entry other : Entry} {entries : List Entry}
    (h : other ∈ (insertEntry entry entries).2) : other = entry ∨ other ∈ entries := by
  induction entries with
  | nil => simpa [insertEntry] using h
  | cons first rest ih =>
    simp only [insertEntry] at h
    split at h
    · simpa using h
    · split at h
      · rcases List.mem_cons.1 h with rfl | h
        · simp
        · exact (ih h).imp_right (List.mem_cons_of_mem _)
      · rcases List.mem_cons.1 h with rfl | h
        · simp
        · exact .inr (List.mem_cons_of_mem _ h)

theorem eq_of_not_before {a b : Entry} (ab : ¬ a.Before b) (ba : ¬ b.Before a) : a.1 = b.1 :=
  utf8_injective (List.le_antisymm (List.not_lt.1 ba) (List.not_lt.1 ab))

theorem ascending_insertEntry (entry : Entry) {entries : List Entry}
    (h : entries.Pairwise Entry.Before) :
    (insertEntry entry entries).2.Pairwise Entry.Before := by
  induction entries with
  | nil => simp [insertEntry]
  | cons first rest ih =>
    obtain ⟨first_before, ascending⟩ := List.pairwise_cons.1 h
    simp only [insertEntry]
    split
    · next before =>
      refine List.pairwise_cons.2 ⟨fun other mem => ?_, h⟩
      rcases List.mem_cons.1 mem with rfl | mem
      · exact before
      · exact List.lt_trans before (first_before other mem)
    · next not_before =>
      split
      · next after =>
        refine List.pairwise_cons.2 ⟨fun other mem => ?_, ih ascending⟩
        rcases mem_insertEntry mem with rfl | mem
        · exact after
        · exact first_before other mem
      · next not_after =>
        refine List.pairwise_cons.2 ⟨fun other mem => ?_, ascending⟩
        have same := eq_of_not_before not_before not_after
        simpa [Entry.Before, same] using first_before other mem

/-- Stores a value under a key, and gives the value it replaces. -/
def insert (extras : Extras) (key : String) (value : Extra) : Option Extra × Extras :=
  let inserted := insertEntry (key, value) extras.entries
  (inserted.1, ⟨inserted.2, ascending_insertEntry _ extras.ascending⟩)

def put (extras : Extras) (key : String) (value : Extra) : Extras := (extras.insert key value).2

def ofList (entries : List Entry) : Extras :=
  entries.foldl (fun extras entry => extras.put entry.1 entry.2) empty

def equal (a b : Extras) : Bool :=
  a.size == b.size &&
    (a.entries.zip b.entries).all fun p => p.1.1 == p.2.1 && p.1.2.equal p.2.2

end Extras

end Wallpaper
