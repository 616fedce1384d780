import Wallpaper.Proofs.Recording.RoundTrip
import Wallpaper.Recording.Decoder

/-! Recordings that are cut off. A record is read from its own bytes, without a look at what comes
behind them, and no front part of a record is a record. So a cut loses the record that it falls
into and those behind it, and nothing else. -/
namespace Wallpaper.Recording

open Wire

theorem read_append {bytes rest : Bytes} {e : Event} (taken : event.read bytes = some (e, rest))
    (more : Bytes) : event.read (bytes ++ more) = some (e, rest ++ more) := by
  obtain ⟨fits, used, rfl, spelled⟩ := eventGrammar.accepted taken
  rw [List.append_assoc]
  exact eventGrammar.accepts fits spelled _

theorem read_of_read_take {bytes rest : Bytes} {e : Event} {n : Nat}
    (taken : event.read (bytes.take n) = some (e, rest)) :
    event.read bytes = some (e, rest ++ bytes.drop n) := by
  have whole := read_append taken (bytes.drop n)
  rwa [List.take_append_drop] at whole

theorem read_take_eq_none {bytes : Bytes} (stops : event.read bytes = none) (n : Nat) :
    event.read (bytes.take n) = none := by
  cases taken : event.read (bytes.take n) with
  | none => rfl
  | some p =>
    rw [read_of_read_take taken] at stops
    cases stops

theorem read_take_of_lt {bytes rest : Bytes} {e : Event}
    (taken : event.read bytes = some (e, rest)) {n : Nat}
    (inside : n + rest.length < bytes.length) : event.read (bytes.take n) = none := by
  cases early : event.read (bytes.take n) with
  | none => rfl
  | some p =>
    have same := Option.some.inj ((read_of_read_take early).symm.trans taken)
    have tail : p.2 ++ bytes.drop n = rest := congrArg Prod.snd same
    have lengths := congrArg List.length tail
    rw [List.length_append, List.length_drop] at lengths
    omega

theorem read_take_of_le {bytes rest : Bytes} {e : Event}
    (taken : event.read bytes = some (e, rest)) {n : Nat}
    (behind : bytes.length ≤ n + rest.length) :
    event.read (bytes.take n) = some (e, rest.take (n + rest.length - bytes.length)) := by
  obtain ⟨fits, used, rfl, spelled⟩ := eventGrammar.accepted taken
  rw [List.length_append] at behind ⊢
  have enough : used.length ≤ n := by omega
  have left : n + rest.length - (used.length + rest.length) = n - used.length := by omega
  rw [List.take_append, List.take_of_length_le enough, left]
  exact eventGrammar.accepts fits spelled _

namespace Decoder

@[simp] theorem remaining_start (bytes : Bytes) : (start bytes).remaining = bytes := rfl

theorem length_remaining (d : Decoder) : d.remaining.length = d.bytes.length - d.position :=
  List.length_drop

theorem read_of_next? {d after : Decoder} {e : Event} (next : d.next? = (some e, after)) :
    after.bytes = d.bytes ∧ event.read d.remaining = some (e, after.remaining) := by
  unfold next? at next
  split at next
  · rename_i rest taken
    cases next
    obtain ⟨used, split⟩ := event.takes_front taken
    have tail : rest <:+ d.bytes := .trans ⟨used, split.symm⟩ (List.drop_suffix _ _)
    refine ⟨rfl, ?_⟩
    rw [taken, remaining, ← List.suffix_iff_eq_drop.1 tail]
  · cases next

theorem read_of_next?_none {d after : Decoder} (next : d.next? = (none, after)) :
    event.read d.remaining = none := by
  unfold next? at next
  split at next
  · cases next
  · assumption

theorem length_remaining_lt {d after : Decoder} {e : Event} (next : d.next? = (some e, after)) :
    after.remaining.length < d.remaining.length :=
  length_lt_of_read_event (read_of_next? next).2

/-- What calls of a decoder give until the first that gives nothing: the events, each with the
position behind its record. -/
def records (d : Decoder) : List (Event × Nat) :=
  match next : d.next? with
  | (none, _) => []
  | (some e, after) =>
    have := length_remaining_lt next
    (e, after.position) :: after.records
termination_by d.remaining.length

theorem map_fst_records (d : Decoder) : d.records.map Prod.fst = decode d.remaining := by
  fun_induction records d with
  | case1 d _ next => exact (decode_eq_nil (read_of_next?_none next)).symm
  | case2 d e after next _ ih =>
    rw [decode_of_read (read_of_next? next).2, List.map_cons, ih]

theorem position_lt {d after : Decoder} {e : Event} (next : d.next? = (some e, after)) :
    d.position < after.position := by
  have shorter := length_remaining_lt next
  rw [length_remaining, length_remaining, (read_of_next? next).1] at shorter
  omega

theorem position_lt_of_mem_records {d : Decoder} {r : Event × Nat} (h : r ∈ d.records) :
    d.position < r.2 := by
  fun_induction records d with
  | case1 => cases h
  | case2 d e after next _ ih =>
    have ahead := position_lt next
    rcases List.mem_cons.1 h with rfl | h
    · exact ahead
    · exact Nat.lt_trans ahead (ih h)

theorem decode_take_remaining (d : Decoder) (n : Nat) :
    decode (d.remaining.take (n - d.position)) =
      (decode d.remaining).take (d.records.countP (·.2 ≤ n)) := by
  fun_induction records d with
  | case1 d _ next =>
    have stops := read_of_next?_none next
    rw [decode_eq_nil stops, decode_eq_nil (read_take_eq_none stops _), List.take_nil]
  | case2 d e after next _ ih =>
    obtain ⟨same_bytes, taken⟩ := read_of_next? next
    have ahead := position_lt next
    have size := length_remaining d
    have size_after := length_remaining after
    have in_bounds := after.position_le
    rw [same_bytes] at size_after in_bounds
    rw [decode_of_read taken]
    by_cases behind : after.position ≤ n
    -- The cut spares this record, and the ones behind it are cut as far from their own start.
    · have left : n - d.position + after.remaining.length - d.remaining.length =
          n - after.position := by omega
      rw [decode_of_read (read_take_of_le taken (by omega)), left, ih,
        List.countP_cons_of_pos (by simpa using behind), List.take_succ_cons]
    -- The cut falls into this record, so that none of the later ones ends in time.
    · have none_ends : after.records.countP (·.2 ≤ n) = 0 := by
        refine List.countP_eq_zero.2 fun r h => ?_
        have later := position_lt_of_mem_records h
        simp only [decide_eq_true_eq]
        omega
      rw [decode_eq_nil (read_take_of_lt taken (by omega)),
        List.countP_cons_of_neg (by simpa using behind), none_ends, List.take_zero]

end Decoder

/-- The events of a cut recording are those of the whole one whose records end before the cut or
right there. -/
theorem decode_take (bytes : Bytes) (n : Nat) :
    let records := (Decoder.start bytes).records
    records.map Prod.fst = decode bytes ∧
      decode (bytes.take n) = (decode bytes).take (records.countP (·.2 ≤ n)) :=
  ⟨(Decoder.start bytes).map_fst_records, (Decoder.start bytes).decode_take_remaining n⟩

end Wallpaper.Recording
