import Wallpaper.Proofs.Recording.Truncation
import Wallpaper.Proofs.Wire.Cursor

/-! A decoder that is called again and again. Each event moves it on by the bytes of its record, and
the first call that gives nothing leaves it at the end for good. A call is also a scan with all the
bytes at hand, which asks for the length that is left before each look; none of its looks falls
outside of the bytes. -/
namespace Wallpaper.Recording

open Wire

theorem length_write_header (h : Header) : (header.write h).length = 16 := by
  simp [header, Codec.as, Codec.both, Codec.word32, Codec.word64, Codec.word]

theorem length_writeDetail_pos (d : Detail) : 0 < (writeDetail d).length := by
  cases d <;>
    simp [writeDetail, membership, exit, hide, broadcast, visibility, dispatch, surface,
      Codec.flag, Codec.choice, Codec.as, Codec.both, Codec.word32, Codec.word]

theorem le_length_recorded (e : Event) : 18 ≤ (recorded [e]).length := by
  have header := length_write_header e.toHeader
  have detail := length_writeDetail_pos e.detail
  have whole : (recorded [e]).length = 1 + 16 + (writeDetail e.detail).length := by
    rw [recorded_eq_encode, encode, List.flatMap_singleton]
    simp [event, header]
    omega
  omega

def surfaceCursor : Cursor surface := Cursor.word32.as _ _

def headerCursor : Cursor header := Cursor.as (.both .word32 (.both .word32 .word64)) _ _

def membershipCursor : Cursor membership := .both surfaceCursor (.both (.choice _) .word32)

def exitCursor : Cursor exit := .word32

def hideCursor : Cursor hide := .both .flag (.both .word32 .text)

def broadcastCursor : Cursor broadcast :=
  .both (.choice _) (.both .word32 (.both (Cursor.optionalWord32.as _ _) .word32))

def visibilityCursor : Cursor visibility := .flag

def dispatchCursor : Cursor dispatch :=
  .both (.choice _) (.both surfaceCursor (.both .flag (.choice _)))

def scanRecord (bytes : Bytes) (scanDetail : Scan Detail) : Scan Event := do
  let header ← headerCursor.scan bytes
  (Event.mk header ·) <$> scanDetail

def scanBody (bytes : Bytes) (tag : UInt8) : Scan Event :=
  match tag.toNat with
  | 1 => scanRecord bytes ((fun p => .membership p.1 p.2.1 p.2.2) <$> membershipCursor.scan bytes)
  | 2 => scanRecord bytes (.exit <$> exitCursor.scan bytes)
  | 3 => scanRecord bytes ((fun p => .hide p.1 p.2.2 p.2.1) <$> hideCursor.scan bytes)
  | 4 =>
    scanRecord bytes
      ((fun p => .broadcast p.1 p.2.1 p.2.2.1 p.2.2.2) <$> broadcastCursor.scan bytes)
  | 5 => scanRecord bytes (.visibility <$> visibilityCursor.scan bytes)
  | 6 =>
    scanRecord bytes ((fun p => .dispatch p.1 p.2.1 p.2.2.1 p.2.2.2) <$> dispatchCursor.scan bytes)
  | _ => throw .refused

/-- The next event at a position. A damaged record moves the position to the end. -/
def scanEvent (bytes : Bytes) : Scan Event := do
  let tag ← Scan.byte bytes
  tryCatch (scanBody bytes tag) fun
    | .refused => do
      set bytes.length
      throw .refused
    | .outside => throw .outside

section

variable {bytes : Bytes}

theorem follows_scanRecord {tag : UInt8} {read : Reader Detail} {scan : Scan Detail}
    (reads : readDetail tag = read) (h : Scan.Follows bytes read scan) :
    Scan.Follows bytes (readBody tag) (scanRecord bytes scan) :=
  (headerCursor.follows bytes).bind fun header => (reads ▸ h).map (Event.mk header)

theorem readBody_eq_none {tag : UInt8} (reads : readDetail tag = Reader.ofOption none)
    (front : Bytes) : readBody tag front = none := by
  cases taken : readBody tag front with
  | none => rfl
  | some p =>
    obtain ⟨_, _, _, taken⟩ := Reader.bind_eq_some_iff.1 taken
    obtain ⟨_, nothing, _⟩ := Reader.map_eq_some_iff.1 taken
    rw [reads] at nothing
    cases nothing

theorem follows_scanBody (tag : UInt8) :
    Scan.Follows bytes (readBody tag) (scanBody bytes tag) := by
  unfold scanBody
  split
  · exact follows_scanRecord (by simp [readDetail, *]) ((membershipCursor.follows bytes).map _)
  · exact follows_scanRecord (by simp [readDetail, *]) ((exitCursor.follows bytes).map _)
  · exact follows_scanRecord (by simp [readDetail, *]) ((hideCursor.follows bytes).map _)
  · exact follows_scanRecord (by simp [readDetail, *]) ((broadcastCursor.follows bytes).map _)
  · exact follows_scanRecord (by simp [readDetail, *]) ((visibilityCursor.follows bytes).map _)
  · exact follows_scanRecord (by simp [readDetail, *]) ((dispatchCursor.follows bytes).map _)
  -- The scan refuses an unknown tag right away, the reader only behind the header.
  · intro position inside
    rw [readBody_eq_none (by simp [readDetail, *])]
    exact .refused (Nat.le_refl _) inside

theorem scanEvent_of_lt {position : Nat} (more : position < bytes.length) :
    scanEvent bytes position = match scanBody bytes bytes[position] (position + 1) with
      | .ok e later => .ok e later
      | .error .refused _ => .error .refused bytes.length
      | .error .outside later => .error .outside later := by
  rw [scanEvent, Scan.bind_of_ok (Scan.byte_of_lt more)]
  simp only [tryCatch, tryCatchThe, MonadExceptOf.tryCatch, EStateM.tryCatch]
  cases scanBody bytes bytes[position] (position + 1) with
  | ok => rfl
  | error fault => cases fault <;> rfl

theorem scanEvent_at_end : scanEvent bytes bytes.length = .error .refused bytes.length := by
  rw [scanEvent, Scan.bind_of_error Scan.byte_at_end]

end

namespace Decoder

theorem remaining_at_end {d : Decoder} (at_end : d.position = d.bytes.length) : d.remaining = [] :=
  List.drop_eq_nil_of_le (Nat.le_of_eq at_end.symm)

theorem next?_at_end {d : Decoder} (at_end : d.position = d.bytes.length) :
    d.next? = (none, d) := by
  have nothing := remaining_at_end at_end
  obtain ⟨bytes, position, inside⟩ := d
  obtain rfl : position = bytes.length := at_end
  rw [next?, nothing]
  rfl

/-- A call is a scan from its position, and the scan does not leave the bytes. -/
theorem scanEvent_position (d : Decoder) :
    scanEvent d.bytes d.position = match d.next?.1 with
      | some e => .ok e d.next?.2.position
      | none => .error .refused d.next?.2.position := by
  by_cases more : d.position < d.bytes.length
  · have front : d.remaining = d.bytes[d.position] :: d.bytes.drop (d.position + 1) :=
      List.drop_eq_getElem_cons more
    have reads : event.read d.remaining =
        readBody d.bytes[d.position] (d.bytes.drop (d.position + 1)) := by
      rw [front]
      rfl
    have body := follows_scanBody d.bytes[d.position] (d.position + 1) more
    rw [scanEvent_of_lt more, next?, reads]
    generalize scanBody _ _ _ = result, readBody _ _ = taken at body ⊢
    cases body with
    | found e forth inside => simp only [List.length_drop, Nat.sub_sub_self inside]
    | refused => rfl
  · have at_end : d.position = d.bytes.length :=
      Nat.le_antisymm d.position_le (Nat.le_of_not_lt more)
    rw [next?_at_end at_end, at_end, scanEvent_at_end]

theorem eq_end_of_next?_none {d after : Decoder} (next : d.next? = (none, after)) :
    after = ⟨d.bytes, d.bytes.length, Nat.le_refl _⟩ := by
  unfold next? at next
  split at next
  · cases next
  · cases next
    rfl

theorem position_of_next? {d after : Decoder} {e : Event} (next : d.next? = (some e, after)) :
    after.position = d.position + (recorded [e]).length := by
  obtain ⟨same_bytes, taken⟩ := read_of_next? next
  obtain ⟨-, used, split, spelled⟩ := eventGrammar.accepted taken
  have size : (recorded [e]).length = used.length := by
    rw [recorded_eq_encode, encode, List.flatMap_singleton, ← eventGrammar.written,
      List.length_map, spelled.length_eq]
  have lengths := congrArg List.length split
  have inside := after.position_le
  rw [List.length_append, length_remaining, length_remaining, same_bytes] at lengths
  rw [same_bytes] at inside
  have before := d.position_le
  omega

theorem next?_forth (d : Decoder) :
    d.next?.2.bytes = d.bytes ∧ d.position ≤ d.next?.2.position := by
  cases next : d.next? with
  | mk answer after =>
    cases answer with
    | some e => exact ⟨(read_of_next? next).1, Nat.le_of_lt (position_lt next)⟩
    | none =>
      rw [eq_end_of_next?_none next]
      exact ⟨rfl, d.position_le⟩

/-- The decoder after as many calls. -/
def after (d : Decoder) : Nat → Decoder
  | 0 => d
  | n + 1 => (d.after n).next?.2

/-- What the next call gives after as many others. -/
def answer (d : Decoder) (n : Nat) : Option Event := (d.after n).next?.1

def yielded (d : Decoder) (n : Nat) : List Event := (List.range n).filterMap d.answer

theorem next?_after (d : Decoder) (n : Nat) :
    (d.after n).next? = (d.answer n, d.after (n + 1)) := rfl

theorem bytes_after (d : Decoder) (n : Nat) : (d.after n).bytes = d.bytes := by
  induction n with
  | zero => rfl
  | succ n ih => exact (next?_forth _).1.trans ih

theorem after_of_stopped {d : Decoder} {n : Nat} (stopped : d.answer n = none) :
    (d.after (n + 1)).position = d.bytes.length := by
  have next := d.next?_after n
  rw [stopped] at next
  rw [eq_end_of_next?_none next]
  exact congrArg List.length (d.bytes_after n)

theorem answer_of_stopped {d : Decoder} {n : Nat} (stopped : d.answer n = none) {later : Nat}
    (h : n ≤ later) : d.answer later = none := by
  induction h with
  | refl => exact stopped
  | @step later _ ih =>
    have at_end := after_of_stopped ih
    rw [← d.bytes_after (later + 1)] at at_end
    exact congrArg Prod.fst (next?_at_end at_end)

theorem yielded_succ (d : Decoder) (n : Nat) :
    d.yielded (n + 1) = d.yielded n ++ (d.answer n).toList := by
  rw [yielded, List.range_succ, List.filterMap_append]
  cases h : d.answer n with
  | none => simp [yielded, h]
  | some e => simp [yielded, h]

theorem position_add_length_yielded_le (d : Decoder) (n : Nat) :
    d.position + 18 * (d.yielded n).length ≤ (d.after n).position := by
  induction n with
  | zero => exact Nat.le_refl _
  | succ n ih =>
    have next := d.next?_after n
    rw [yielded_succ, List.length_append]
    cases given : d.answer n with
    | none => exact Nat.le_trans ih (next?_forth _).2
    | some e =>
      rw [given] at next
      have forth := position_of_next? next
      have size := le_length_recorded e
      simp only [Option.toList_some, List.length_singleton]
      omega

theorem length_yielded_of_going {d : Decoder} {n : Nat} (going : ∀ i < n, d.answer i ≠ none) :
    (d.yielded n).length = n := by
  induction n with
  | zero => rfl
  | succ n ih =>
    obtain ⟨e, given⟩ := Option.ne_none_iff_exists'.1 (going n (Nat.lt_succ_self n))
    have before := ih fun i h => going i (Nat.lt_succ_of_lt h)
    rw [yielded_succ, given, List.length_append, before]
    rfl

theorem length_yielded_le (d : Decoder) (n : Nat) : (d.yielded n).length ≤ d.bytes.length / 18 := by
  have moved := d.position_add_length_yielded_le n
  have inside := (d.after n).position_le
  rw [bytes_after] at inside
  omega

theorem exists_stopped (d : Decoder) : ∃ n ≤ d.bytes.length / 18, d.answer n = none := by
  by_contra never
  have going : ∀ i < d.bytes.length / 18 + 1, d.answer i ≠ none := by
    intro i h stopped
    exact never ⟨i, Nat.le_of_lt_succ h, stopped⟩
  have few := d.length_yielded_le (d.bytes.length / 18 + 1)
  rw [length_yielded_of_going going] at few
  omega

/-- Call after call, a decoder goes forth over the bytes and never looks outside of them. An event
moves it on by the length of its record. After the first call without an event it is at the end and
stays there, and there is such a call. -/
theorem advances_until_end (bytes : Bytes) :
    let d := start bytes
    (∀ n, (d.after n).position ≤ (d.after (n + 1)).position ∧
      (d.after n).position ≤ bytes.length) ∧
    (∀ n, scanEvent bytes (d.after n).position = match d.answer n with
      | some e => .ok e (d.after (n + 1)).position
      | none => .error .refused (d.after (n + 1)).position) ∧
    (∀ n e, d.answer n = some e → 18 ≤ (recorded [e]).length ∧
      (d.after (n + 1)).position = (d.after n).position + (recorded [e]).length) ∧
    (∀ n, (d.yielded n).length ≤ bytes.length / 18) ∧
    (∃ n ≤ bytes.length / 18, d.answer n = none) ∧
    ∀ n, d.answer n = none →
      (d.after (n + 1)).position = bytes.length ∧ ∀ later ≥ n, d.answer later = none := by
  intro d
  refine ⟨fun n => ⟨(next?_forth _).2, ?_⟩, fun n => ?_, fun n e given => ?_,
    d.length_yielded_le, d.exists_stopped, fun n stopped => ?_⟩
  · rw [← show (d.after n).bytes = bytes from d.bytes_after n]
    exact (d.after n).position_le
  · rw [← show (d.after n).bytes = bytes from d.bytes_after n]
    exact scanEvent_position (d.after n)
  · have next := d.next?_after n
    rw [given] at next
    exact ⟨le_length_recorded e, position_of_next? next⟩
  · exact ⟨after_of_stopped stopped, fun later h => answer_of_stopped stopped h⟩

-- The last byte of the second record is missing.
example :
    let e : Event := ⟨⟨⟨1⟩, ⟨4⟩, 7⟩, .visibility true⟩
    let d := start ((recorded [e, e]).take 35)
    d.yielded 4 = [e] ∧ (d.after 1).position = 18 ∧ (d.after 2).position = 35 := by
  decide +kernel

end Decoder

end Wallpaper.Recording
