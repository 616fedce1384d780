import Mathlib.Data.List.Dedup
import Mathlib.Data.List.Induction
import Wallpaper.Extras

/-! What a command carries, by what was stored in it. Each key stands for the value that was stored
under it last, so what is carried is the same for all ways of storing that agree on those values:
the keys stand in the order of their bytes, each of them once. -/
namespace Wallpaper.Extras

/-! ### Reading -/

theorem Entry.Before.ne {a b : Entry} (before : a.Before b) : a.1 ≠ b.1 := by
  intro same
  rw [Entry.Before, same] at before
  exact List.lt_irrefl _ before

theorem lookup_cons (first : Entry) (rest : List Entry) (key : String) :
    (first :: rest).lookup key = if key = first.1 then some first.2 else rest.lookup key := by
  obtain ⟨stored, value⟩ := first
  by_cases this : key = stored
  · simp [this]
  · simp [List.lookup_cons, this, beq_false_of_ne this]

theorem lookup_insertEntry (entry : Entry) (key : String) (entries : List Entry) :
    (insertEntry entry entries).2.lookup key =
      if key = entry.1 then some entry.2 else entries.lookup key := by
  induction entries with
  | nil => exact lookup_cons entry [] key
  | cons first rest ih =>
    unfold insertEntry
    split
    · exact lookup_cons entry (first :: rest) key
    · next not_before =>
      split
      · next after =>
        rw [lookup_cons, ih, lookup_cons]
        by_cases this : key = first.1
        · have other : key ≠ entry.1 := this ▸ after.ne
          rw [if_pos this, if_neg other, if_pos this]
        · rw [if_neg this, if_neg this]
      · next not_after =>
        have same : entry.1 = first.1 := eq_of_not_before not_before not_after
        rw [lookup_cons, lookup_cons, same]
        split <;> rfl

theorem lookup_eq_none {key : String} {entries : List Entry}
    (others : ∀ entry ∈ entries, key ≠ entry.1) : entries.lookup key = none :=
  List.lookup_eq_none_iff.2 fun entry mem => by simpa using others entry mem

/-- What an entry takes over from was there before. -/
theorem insertEntry_replaced (entry : Entry) {entries : List Entry}
    (ascending : entries.Pairwise Entry.Before) :
    (insertEntry entry entries).1 = entries.lookup entry.1 := by
  induction entries with
  | nil => rfl
  | cons first rest ih =>
    obtain ⟨first_before, ascending⟩ := List.pairwise_cons.1 ascending
    unfold insertEntry
    split
    · next before =>
      refine (lookup_eq_none fun other mem => ?_).symm
      rcases List.mem_cons.1 mem with rfl | mem
      · exact before.ne
      · exact Entry.Before.ne (List.lt_trans before (first_before other mem))
    · next not_before =>
      split
      · next after => rw [ih ascending, lookup_cons, if_neg after.ne.symm]
      · next not_after =>
        have same : entry.1 = first.1 := eq_of_not_before not_before not_after
        rw [lookup_cons, if_pos same]

theorem get?_insert (extras : Extras) (key other : String) (value : Extra) :
    (extras.insert key value).2.get? other =
      if other = key then some value else extras.get? other :=
  lookup_insertEntry (key, value) other extras.entries

theorem insert_replaced (extras : Extras) (key : String) (value : Extra) :
    (extras.insert key value).1 = extras.get? key :=
  insertEntry_replaced (key, value) extras.ascending

/-! ### Contents -/

def keys (extras : Extras) : List String := extras.entries.map Prod.fst

theorem nodup_keys (extras : Extras) : extras.keys.Nodup :=
  List.Pairwise.map _ (fun _ _ before => before.ne) extras.ascending

theorem mem_entries_iff (extras : Extras) (key : String) (value : Extra) :
    (key, value) ∈ extras.entries ↔ extras.get? key = some value := by
  rw [get?, List.lookup_eq_some_iff]
  constructor
  · intro mem
    obtain ⟨front, back, entries⟩ := List.append_of_mem mem
    refine ⟨front, back, entries, fun entry before => ?_⟩
    have ascending := entries ▸ extras.ascending
    have first := (List.pairwise_append.1 ascending).2.2 entry before (key, value) (by simp)
    simpa using first.ne.symm
  · rintro ⟨front, back, entries, -⟩
    simp [entries]

theorem mem_keys_iff (extras : Extras) (key : String) :
    key ∈ extras.keys ↔ (extras.get? key).isSome = true := by
  simp [keys, Option.isSome_iff_exists, ← mem_entries_iff]

/-- Contents that read alike are the same, entry by entry. -/
theorem entries_eq_of_get? {a b : Extras} (alike : ∀ key, a.get? key = b.get? key) :
    a.entries = b.entries := by
  have same (entry : Entry) : entry ∈ a.entries ↔ entry ∈ b.entries := by
    obtain ⟨key, value⟩ := entry
    rw [mem_entries_iff, mem_entries_iff, alike]
  have perm : a.entries.Perm b.entries :=
    (List.perm_ext_iff_of_nodup a.nodup_keys.of_map b.nodup_keys.of_map).2 same
  exact perm.eq_of_pairwise (fun _ _ _ _ before after => absurd after (List.lt_asymm before))
    a.ascending b.ascending

/-! ### Storing -/

/-- A value is stored for the value it replaces, or for what is carried afterwards. -/
inductive Write where
  | insert (key : String) (value : Extra)
  | put (key : String) (value : Extra)

namespace Write

def key : Write → String
  | insert key _ => key
  | put key _ => key

def value : Write → Extra
  | insert _ value => value
  | put _ value => value

def apply (extras : Extras) : Write → Extras
  | insert key value => (extras.insert key value).2
  | put key value => extras.put key value

end Write

/-- What is carried after these were stored, one after the other, with nothing there at first. -/
def written (writes : List Write) : Extras := writes.foldl Write.apply empty

/-- The value that was stored last under a key. -/
def last? (writes : List Write) (key : String) : Option Extra :=
  ((writes.filter (·.key = key)).getLast?).map Write.value

theorem get?_apply (extras : Extras) (write : Write) (key : String) :
    (write.apply extras).get? key =
      if key = write.key then some write.value else extras.get? key := by
  cases write with
  | insert stored value => exact extras.get?_insert stored key value
  | put stored value => exact extras.get?_insert stored key value

theorem last?_concat (writes : List Write) (write : Write) (key : String) :
    last? (writes ++ [write]) key =
      if key = write.key then some write.value else last? writes key := by
  by_cases this : key = write.key
  · simp [last?, this]
  · simp [last?, this, Ne.symm this]

theorem get?_written (writes : List Write) (key : String) :
    (written writes).get? key = last? writes key := by
  induction writes using List.reverseRecOn with
  | nil => rfl
  | append_singleton earlier write ih =>
    rw [written, List.foldl_append, List.foldl_cons, List.foldl_nil, ← written, get?_apply, ih,
      last?_concat]

theorem last?_isSome (writes : List Write) (key : String) :
    (last? writes key).isSome = true ↔ key ∈ writes.map Write.key := by
  simp [last?]

theorem keys_written_perm (writes : List Write) :
    (written writes).keys.Perm (writes.map Write.key).dedup := by
  refine (List.perm_ext_iff_of_nodup (written writes).nodup_keys (List.nodup_dedup _)).2 ?_
  intro key
  rw [mem_keys_iff, get?_written, last?_isSome, List.mem_dedup]

theorem entries_written_eq_iff (writes others : List Write) :
    (written writes).entries = (written others).entries ↔
      ∀ key, last? writes key = last? others key := by
  simp only [← get?_written]
  constructor
  · intro same key
    rw [get?, get?, same]
  · exact entries_eq_of_get?

/-- Whatever was stored, the entries stand in the order of the bytes of their keys, each stored key
once, with the value that was stored last. Storing gives the value it replaces and touches no other
key. Two ways of storing come to the same entries if and only if they agree on the last value of
each key. -/
theorem written_canonical (writes others : List Write) :
    let extras := written writes
    extras.entries.Pairwise Entry.Before ∧
      extras.keys.Perm (writes.map Write.key).dedup ∧
      (∀ key value, (key, value) ∈ extras.entries ↔ last? writes key = some value) ∧
      extras.size = (writes.map Write.key).dedup.length ∧
      (∀ key value, (extras.insert key value).1 = extras.get? key ∧
        ∀ other, (extras.insert key value).2.get? other =
          if other = key then some value else extras.get? other) ∧
      (extras.entries = (written others).entries ↔ ∀ key, last? writes key = last? others key) := by
  intro extras
  have keys_perm := keys_written_perm writes
  refine ⟨extras.ascending, keys_perm, fun key value => ?_, ?_, fun key value => ⟨?_, ?_⟩, ?_⟩
  · rw [mem_entries_iff, get?_written]
  · simpa [keys, size] using keys_perm.length_eq
  · exact extras.insert_replaced key value
  · exact fun other => extras.get?_insert key other value
  · exact entries_written_eq_iff writes others

/-- A key stands before those that go on from it, and a character of three bytes before one of
four. -/
example :
    (written [.put "😀" (.int 1), .insert "ab" (.int 2), .put "\uff5a" (.int 3),
      .insert "a" (.int 4), .insert "ab" (.int 5)]).entries =
      [("a", .int 4), ("ab", .int 5), ("\uff5a", .int 3), ("😀", .int 1)] := by
  decide +kernel

end Wallpaper.Extras
