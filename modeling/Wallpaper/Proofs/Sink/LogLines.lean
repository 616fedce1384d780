import Wallpaper.Proofs.Sink.Delivery
import Wallpaper.Proofs.Text.Quoted

/-! What can be read off a log. Every event gets one line, and nothing in an event can end the line
or begin another. A line shows all that its event holds, but for the header of a single member's
visit, which the line of the broadcast shows; so a log shows as much of its events. -/
namespace Wallpaper

open Text

theorem toString_word32 (n : UInt32) : toString n = toString n.toNat := rfl

theorem toString_word64 (n : UInt64) : toString n = toString n.toNat := rfl

theorem toString_surface (id : SurfaceId) : toString id = "#" ++ toString id.number.toNat := rfl

/-- A number behind a label, up to what is no digit. -/
theorem labelled_unique {label : String} {m n : Nat} {r s : List Char}
    (ends_r : Avoids Char.isDigit r) (ends_s : Avoids Char.isDigit s)
    (same : label.toList ++ ((toString m).toList ++ r) =
      label.toList ++ ((toString n).toList ++ s)) : m = n ∧ r = s :=
  (numeral_toString m).unique (numeral_toString n) ends_r ends_s (List.append_cancel_left same)

namespace Header

theorem unique {h k : Header} {r s : List Char} (ends_r : Avoids Char.isDigit r)
    (ends_s : Avoids Char.isDigit s) (same : written h.pieces ++ r = written k.pieces ++ s) :
    h = k ∧ r = s := by
  obtain ⟨⟨display⟩, ⟨token⟩, seq⟩ := h
  obtain ⟨⟨display'⟩, ⟨token'⟩, seq'⟩ := k
  simp only [pieces, written, List.flatMap_cons, List.flatMap_nil, List.append_assoc,
    List.nil_append, toString_word32, toString_word64] at same
  obtain ⟨displays, same⟩ := labelled_unique (by simp [Avoids]) (by simp [Avoids]) same
  obtain ⟨tokens, same⟩ := labelled_unique (by simp [Avoids]) (by simp [Avoids]) same
  obtain ⟨seqs, same⟩ := labelled_unique ends_r ends_s same
  rw [UInt32.toNat_inj.1 displays, UInt32.toNat_inj.1 tokens, UInt64.toNat_inj.1 seqs]
  exact ⟨rfl, same⟩

end Header

namespace Detail

/-- The line up to its first closing bracket. -/
def opening : Detail → String
  | .membership .. => "[member"
  | .exit .. => "[exit"
  | .hide .. => "[hide"
  | .broadcast operation .. => "[" ++ operation.name
  | .visibility .. => "[visibility"
  | .dispatch operation .. => "  [" ++ operation.name ++ ":member"

/-- The line behind the header, or behind the bracket if there is none. -/
def tail : Detail → List String
  | .membership surface change members =>
    [" ", change.sign, toString surface, " members=", toString members]
  | .exit members => [" members=", toString members]
  | .hide hidden reason members =>
    [" hidden=", toString hidden, " reason=", Text.quoted reason, " members=", toString members]
  | .broadcast _ members synchronous failures =>
    [" members=", toString members, " sync=", (synchronous.map toString).getD "none",
      " failures=", toString failures]
  | .visibility hidden => [" hidden=", toString hidden, " (layout requested)"]
  | .dispatch _ surface synchronous outcome =>
    [toString surface, " sync=", toString synchronous, " ", outcome.phrase]

theorem flag_unique {label : String} {a b : Bool} {r s : List Char}
    (same : label.toList ++ ((toString a).toList ++ r) =
      label.toList ++ ((toString b).toList ++ s)) : a = b ∧ r = s := by
  have flags := List.append_cancel_left same
  cases a <;> cases b <;> simp_all [toString]

theorem surface_unique {a b : SurfaceId} {r s : List Char} (ends_r : Avoids Char.isDigit r)
    (ends_s : Avoids Char.isDigit s)
    (same : (toString a).toList ++ r = (toString b).toList ++ s) : a = b ∧ r = s := by
  obtain ⟨number⟩ := a
  obtain ⟨number'⟩ := b
  simp only [toString_surface, String.toList_append, List.append_assoc] at same
  obtain ⟨numbers, rest⟩ := labelled_unique ends_r ends_s same
  rw [UInt32.toNat_inj.1 numbers]
  exact ⟨rfl, rest⟩

theorem synchronous_unique {a b : Option SurfaceId} {r s : List Char}
    (ends_r : Avoids Char.isDigit r) (ends_s : Avoids Char.isDigit s)
    (same : ((a.map toString).getD "none").toList ++ r =
      ((b.map toString).getD "none").toList ++ s) : a = b ∧ r = s := by
  cases a with
  | none => cases b with
    | none => exact ⟨rfl, List.append_cancel_left same⟩
    | some b => simp [toString_surface] at same
  | some a => cases b with
    | none => simp [toString_surface] at same
    | some b =>
      obtain ⟨surfaces, rest⟩ := surface_unique ends_r ends_s same
      rw [surfaces]
      exact ⟨rfl, rest⟩

theorem members_unique {label : String} {m n : UInt32}
    (same : label.toList ++ (toString m).toList = label.toList ++ (toString n).toList) :
    m = n := by
  have ends := avoids_nil Char.isDigit
  have numbers := labelled_unique ends ends
    (by simpa only [List.append_nil, toString_word32] using same)
  exact UInt32.toNat_inj.1 numbers.1

/- Only the broadcasts of a hide and of a visibility update share their opening with other events,
and they go on with their members where those go on with a flag. -/
theorem tail_unique {a b : Detail} (openings : a.opening.toList = b.opening.toList)
    (same : written a.tail = written b.tail) : a = b := by
  cases a with
  | membership id change members =>
    cases b with
    | membership id' change' members' =>
      simp only [tail, written, List.flatMap_cons, List.flatMap_nil, List.append_nil] at same
      have signs := List.append_cancel_left same
      obtain rfl : change = change' := by
        cases change <;> cases change' <;> simp [Change.sign] at signs ⊢
      obtain ⟨rfl, counts⟩ := surface_unique (by simp [Avoids]) (by simp [Avoids])
        (List.append_cancel_left signs)
      rw [members_unique counts]
    | broadcast operation => cases operation <;> simp [opening, Operation.name] at openings
    | _ => simp [opening] at openings
  | exit members =>
    cases b with
    | exit members' =>
      simp only [tail, written, List.flatMap_cons, List.flatMap_nil, List.append_nil] at same
      rw [members_unique same]
    | broadcast operation => cases operation <;> simp [opening, Operation.name] at openings
    | _ => simp [opening] at openings
  | hide hidden reason members =>
    cases b with
    | hide hidden' reason' members' =>
      simp only [tail, written, List.flatMap_cons, List.flatMap_nil, List.append_nil] at same
      obtain ⟨rfl, reasons⟩ := flag_unique same
      obtain ⟨rfl, counts⟩ := quoted_unique (List.append_cancel_left reasons)
      rw [members_unique counts]
    | broadcast => simp [tail, written] at same
    | _ => simp [opening] at openings
  | broadcast operation members synchronous failures =>
    cases b with
    | broadcast operation' members' synchronous' failures' =>
      have names : operation.name = operation'.name := by
        simpa [opening, String.toList_inj] using openings
      simp only [tail, written, List.flatMap_cons, List.flatMap_nil, List.append_nil,
        toString_word32 members, toString_word32 members'] at same
      obtain ⟨counts, later⟩ := labelled_unique (by simp [Avoids]) (by simp [Avoids]) same
      obtain ⟨rfl, failed⟩ := synchronous_unique (by simp [Avoids]) (by simp [Avoids])
        (List.append_cancel_left later)
      rw [Operation.eq_of_name names, UInt32.toNat_inj.1 counts, members_unique failed]
    | membership | exit => cases operation <;> simp [opening, Operation.name] at openings
    | hide | visibility => simp [tail, written] at same
    | dispatch => simp [opening] at openings
  | visibility hidden =>
    cases b with
    | visibility hidden' =>
      simp only [tail, written, List.flatMap_cons, List.flatMap_nil, List.append_nil] at same
      obtain ⟨rfl, -⟩ := flag_unique same
      rfl
    | broadcast => simp [tail, written] at same
    | _ => simp [opening] at openings
  | dispatch operation id synchronous outcome =>
    cases b with
    | dispatch operation' id' synchronous' outcome' =>
      have names : operation.name = operation'.name := by
        simpa [opening, String.toList_inj] using openings
      simp only [tail, written, List.flatMap_cons, List.flatMap_nil, List.append_nil] at same
      obtain ⟨rfl, later⟩ := surface_unique (by simp [Avoids]) (by simp [Avoids]) same
      obtain ⟨rfl, phrases⟩ := flag_unique later
      have outcomes := String.toList_inj.1 (List.append_cancel_left phrases)
      rw [Operation.eq_of_name names, Outcome.eq_of_phrase outcomes]
    | _ => simp [opening] at openings

end Detail

namespace Event

/-- The header that the line of an event shows. -/
def shownHeader (e : Event) : Option Header :=
  match e.detail with
  | .dispatch .. => none
  | _ => some e.toHeader

/-- What the line of an event shows of it. -/
def shown (e : Event) : Option Header × Detail := (e.shownHeader, e.detail)

def body (e : Event) : String :=
  String.join ([e.detail.opening, "] "] ++ e.shownHeader.elim [] Header.pieces ++ e.detail.tail)

theorem line_eq (e : Event) : e.line = e.body ++ "\n" := by
  obtain ⟨header, detail⟩ := e
  cases detail <;>
    simp [line, pieces, body, shownHeader, Detail.opening, Detail.tail, ← String.toList_inj]

theorem line_of_shown {a b : Event} (same : a.shown = b.shown) : a.line = b.line := by
  obtain ⟨headers, details⟩ := Prod.mk.inj same
  rw [line_eq, line_eq, body, body, headers, details]

theorem map_line_of_shown {events others : List Event}
    (same : events.map shown = others.map shown) : events.map line = others.map line := by
  have alike : List.Forall₂ (fun a b : Event => a.shown = b.shown) events others := by
    rwa [← List.forall₂_map_right_iff, ← List.forall₂_map_left_iff, List.forall₂_eq_eq_eq]
  have lines := alike.imp fun _ _ => line_of_shown
  rwa [← List.forall₂_map_right_iff, ← List.forall₂_map_left_iff, List.forall₂_eq_eq_eq] at lines

theorem toList_body (e : Event) : e.body.toList = e.detail.opening.toList ++
    ']' :: ' ' :: (written (e.shownHeader.elim [] Header.pieces) ++ written e.detail.tail) := by
  simp [body, written]

theorem toList_line (e : Event) : e.line.toList = e.body.toList ++ ['\n'] := by simp [line_eq]

theorem opening_clear (e : Event) :
    ']' ∉ e.detail.opening.toList ∧ '\n' ∉ e.detail.opening.toList := by
  cases e.detail with
  | broadcast operation | dispatch operation =>
    cases operation <;> simp [Detail.opening, Operation.name]
  | _ => simp [Detail.opening]

/-- Lines without a header are indented. -/
theorem head?_opening (e : Event) :
    e.detail.opening.toList.head? = some (if e.shownHeader.isNone then ' ' else '[') := by
  obtain ⟨header, detail⟩ := e
  cases detail <;> simp [Detail.opening, shownHeader]

theorem avoids_tail {e : Event} {h : Header} (shows : e.shownHeader = some h) :
    Avoids Char.isDigit (written e.detail.tail) := by
  obtain ⟨header, detail⟩ := e
  cases detail with
  | dispatch => cases shows
  | _ => simp [Avoids, Detail.tail, written]

theorem body_unique {a b : Event} (same : a.body = b.body) : a.shown = b.shown := by
  have texts := congrArg String.toList same
  rw [toList_body, toList_body] at texts
  obtain ⟨openings, later⟩ := cut_unique a.opening_clear.1 b.opening_clear.1 texts
  have rests := (List.cons.inj later).2
  have heads := congrArg List.head? openings
  rw [head?_opening, head?_opening] at heads
  cases shows : a.shownHeader with
  | none =>
    cases shows_other : b.shownHeader with
    | none =>
      rw [shows, shows_other] at rests
      have details := Detail.tail_unique openings rests
      rw [shown, shown, shows, shows_other, details]
    | some k => simp [shows, shows_other] at heads
  | some h =>
    cases shows_other : b.shownHeader with
    | none => simp [shows, shows_other] at heads
    | some k =>
      rw [shows, shows_other] at rests
      obtain ⟨headers, tails⟩ :=
        Header.unique (avoids_tail shows) (avoids_tail shows_other) rests
      have details := Detail.tail_unique openings tails
      rw [shown, shown, shows, shows_other, headers, details]

theorem newline_notMem_digits (n : Nat) : '\n' ∉ Nat.toDigits 10 n := by
  intro mem
  exact absurd (Nat.isDigit_of_mem_toDigits (by decide) (by decide) mem) (by decide)

theorem newline_notMem_header (h : Header) : '\n' ∉ written h.pieces := by
  simp [written, Header.pieces, toString_word32, toString_word64, newline_notMem_digits]

theorem newline_notMem_tail (e : Event) : '\n' ∉ written e.detail.tail := by
  have flag (b : Bool) : '\n' ∉ (toString b).toList := by cases b <;> simp [toString]
  cases e.detail with
  | membership id change members =>
    cases change <;> simp [Detail.tail, written, Change.sign, toString_surface, toString_word32,
      newline_notMem_digits]
  | exit members => simp [Detail.tail, written, toString_word32, newline_notMem_digits]
  | hide hidden reason members =>
    simp [Detail.tail, written, toString_word32, flag, newline_notMem_digits,
      newline_notMem_quoted]
  | broadcast operation members synchronous failures =>
    cases synchronous <;> simp [Detail.tail, written, toString_surface, toString_word32,
      newline_notMem_digits]
  | visibility hidden => simp [Detail.tail, written, flag]
  | dispatch operation id synchronous outcome =>
    have phrase : '\n' ∉ outcome.phrase.toList := by
      rcases outcome with _ | (_ | _) | _ <;> simp [Outcome.phrase, DeliveryError.message]
    simp [Detail.tail, written, toString_surface, flag, phrase, newline_notMem_digits]

theorem newline_notMem_body (e : Event) : '\n' ∉ e.body.toList := by
  have headed : '\n' ∉ written (e.shownHeader.elim [] Header.pieces) := by
    cases e.shownHeader with
    | none => simp [written]
    | some h => exact newline_notMem_header h
  simp [toList_body, opening_clear, newline_notMem_tail, headed]

/-- Lines are told apart by their ends. -/
theorem lines_unique {events others : List Event}
    (same : events.flatMap (·.line.toList) = others.flatMap (·.line.toList)) :
    events.map shown = others.map shown := by
  induction events generalizing others with
  | nil =>
    cases others with
    | nil => rfl
    | cons e rest => simp [toList_line] at same
  | cons e rest ih =>
    cases others with
    | nil => simp [toList_line] at same
    | cons other rest_other =>
      rw [List.flatMap_cons, List.flatMap_cons, toList_line, toList_line, List.append_assoc,
        List.append_assoc] at same
      obtain ⟨bodies, later⟩ := cut_unique e.newline_notMem_body other.newline_notMem_body same
      rw [List.map_cons, List.map_cons, body_unique (String.toList_inj.1 bodies), ih later]

end Event

namespace Receiver

theorem deliverAll_printer (events : List Event) (stored : Wire.Bytes) :
    (Sink.deliverAll events (printer ⟨stored, .unlimited⟩)).result =
      printer ⟨stored ++ Wire.utf8 (String.join (events.map Event.line)), .unlimited⟩ := by
  induction events generalizing stored with
  | nil => simp [Wire.utf8]
  | cons e rest ih =>
    have first : (Sink.deliver e (printer ⟨stored, .unlimited⟩)).result =
        printer ⟨stored ++ Wire.utf8 e.line, .unlimited⟩ := by
      show printer (Printer.print _ e) = _
      rw [Printer.print, Room.write_unlimited]
      rfl
    rw [Sink.deliverAll_cons, Emits.result_bind, first, ih]
    simp [Wire.utf8_append]

/-- What a line writer prints of some events: a line for each of them, with one line end, which is
its last character. The log of other events is the same just if it shows the same of them. -/
theorem printed_faithful (events : List Event) :
    let printed (events : List Event) :=
      (Sink.deliverAll events (printer ⟨[], .unlimited⟩)).result.printed
    (∃ lines : List String, printed events = Wire.utf8 (String.join (lines.map (· ++ "\n"))) ∧
      List.Forall₂ (fun e line => e.line = line ++ "\n" ∧ '\n' ∉ line.toList) events lines) ∧
    ∀ others, printed others = printed events ↔
      others.map Event.shown = events.map Event.shown := by
  intro printed
  have text (events : List Event) :
      printed events = Wire.utf8 (String.join (events.map Event.line)) := by
    simp only [printed, deliverAll_printer]
    rfl
  refine ⟨⟨events.map Event.body, ?_, ?_⟩, fun others => ⟨fun same => ?_, fun same => ?_⟩⟩
  · simp [text, Function.comp_def, ← Event.line_eq]
  · exact List.forall₂_map_right_iff.2
      (List.forall₂_same.2 fun e _ => ⟨e.line_eq, e.newline_notMem_body⟩)
  · rw [text, text] at same
    have texts := congrArg String.toList (Wire.utf8_injective same)
    exact Event.lines_unique (by simpa [List.flatMap_map] using texts)
  · rw [text, text, Event.map_line_of_shown same]

end Receiver

end Wallpaper
