import Wallpaper.Proofs.Recording.Timeline

/-! Timelines that run out of room. Wherever the room ends, within a piece or between two, what is
stored is the front of the whole timeline, and whoever asked for it gets the error of the writer;
there is no error as long as all of it fits. -/
namespace Wallpaper

open Wire

namespace Writer

section

variable {writer : Writer ε σ} {piece : String} {place after : σ}

theorem writeAll_cons_of_ok (taken : writer (utf8 piece) place = .ok () after)
    (rest : List String) : writer.writeAll (piece :: rest) place = writer.writeAll rest after := by
  show (writer (utf8 piece) >>= fun _ => writer.writeAll rest) place = _
  simp only [Bind.bind, EStateM.bind, taken]

/-- The error of the writer ends the writing, and nobody changes it on the way. -/
theorem writeAll_cons_of_error {error : ε}
    (refused : writer (utf8 piece) place = .error error after) (rest : List String) :
    writer.writeAll (piece :: rest) place = .error error after := by
  show (writer (utf8 piece) >>= fun _ => writer.writeAll rest) place = _
  simp only [Bind.bind, EStateM.bind, refused]

end

theorem writeAll_limited (error : ε) (pieces : List String) (before : Bytes) (room : Room) :
    (limited error).writeAll pieces (before, room) = ending error before (room.write pieces) := by
  induction pieces generalizing before room with
  | nil => simp [writeAll, ending, Room.write, pure, EStateM.pure]
  | cons piece rest ih =>
    have first : limited error (utf8 piece) (before, room) =
        ending error before (room.store (utf8 piece)) := rfl
    rw [Room.write]
    cases complete : (room.store (utf8 piece)).complete with
    | true =>
      simp only [ending, complete, if_true] at first
      rw [writeAll_cons_of_ok first, ih, if_pos rfl]
      simp only [ending, List.append_assoc]
    | false =>
      simp only [ending, complete, Bool.false_eq_true, if_false] at first
      rw [writeAll_cons_of_error first]
      simp [ending, complete]

end Writer

namespace Timeline

open Text

/-- The whole timeline is the text that stands for the array of the entries of the recorded events,
and for nothing else. A writer with a limit ends with the front of it, as a writer without one ends
with all of it. It fails, with its own error, if and only if the timeline is longer than the limit.
How the timeline is cut into pieces makes no difference. -/
theorem writeTo_limited (error : ε) (recording : Bytes) (limit : Nat) :
    let events := Recording.decode recording
    let text := (ofEvents events).text
    let full := (write recording .unlimited).stored
    let place := (full.take limit, Room.bytes (limit - full.length))
    let ended : EStateM.Result ε (Bytes × Room) Unit :=
      if full.length ≤ limit then .ok () place else .error error place
    full = utf8 text ∧ (∀ value, Json.Reads text value ↔ value = .array (events.map entry)) ∧
      writeTo (.limited error) recording ([], .bytes limit) = ended ∧
      (∀ pieces, String.join pieces = text →
        Writer.writeAll (.limited error) pieces ([], .bytes limit) = ended) ∧
      Writer.ending error [] (write recording (.bytes limit)) = ended := by
  intro events text full place ended
  have whole : full = utf8 text := by simp only [full, stored_write, text, events]
  have cut_anywhere (pieces : List String) (joined : String.join pieces = text) :
      Writer.ending error [] ((Room.bytes limit).write pieces) = ended := by
    rw [Room.write_bytes, joined, ← whole]
    simp only [Writer.ending, List.nil_append, decide_eq_true_eq, ended, place]
  refine ⟨whole, fun value => Json.reads_text_iff, ?_, fun pieces joined => ?_,
    cut_anywhere _ rfl⟩
  · rw [writeTo, Writer.writeAll_limited]
    exact cut_anywhere _ rfl
  · rw [Writer.writeAll_limited]
    exact cut_anywhere pieces joined

end Timeline

end Wallpaper
