import Wallpaper.Proofs.Recording.Overlong

/-! What the reader takes, and where it stops. It splits any bytes into records and a rest, and what
it took is recorded again as it would have been written. It never stops in front of a record that it
could have taken. But it does stop in front of the record of a text that was cut inside a character,
as what is left of such a text is no text. -/
namespace Wallpaper.Recording

open Wire

/-- A text that is cut between two characters leaves the record of a shorter text. -/
theorem exists_fits_of_legible {e : Event} (h : e.Legible) :
    ∃ short : Event, short.Fits ∧ eventGrammar.places short = eventGrammar.places e := by
  by_cases whole : e.Fits
  · exact ⟨e, whole, rfl⟩
  obtain ⟨s, is_text⟩ := h
  cases e with
  | mk header detail =>
    cases detail with
    | hide hidden reason members =>
      have same : utf8 s = Codec.stored reason := utf8_of_ofUtf8? is_text
      have short : (utf8 s).length ≤ Codec.maxLength := same ▸ List.length_take_le ..
      have stored : Codec.stored s = Codec.stored reason := (Codec.stored_eq_of_le short).trans same
      refine ⟨⟨header, .hide hidden s members⟩, short, ?_⟩
      simp only [eventGrammar, detailPlaces, hideGrammar, Grammar.both, Grammar.text, stored, tag]
    | _ => exact absurd utf8_empty_le whole

/-- The reader takes a record wherever there is one of a text that it can read. -/
theorem read_eq_none_iff {bytes : Bytes} : event.read bytes = none ↔
    ∀ e front, front <+: bytes → Spells (eventGrammar.places e) front → ¬ e.Legible := by
  constructor
  · rintro stops e front ⟨rest, rfl⟩ spelled legible
    obtain ⟨short, fits, same⟩ := exists_fits_of_legible legible
    rw [eventGrammar.accepts fits (same ▸ spelled) rest] at stops
    cases stops
  · intro ahead
    cases taken : event.read bytes with
    | none => rfl
    | some p =>
      obtain ⟨fits, used, split, spelled⟩ := eventGrammar.accepted taken
      exact (ahead p.1 used ⟨p.2, split.symm⟩ spelled fits.legible).elim

/-- The reader gives the events of the records at the front, as many as it can read. -/
theorem decode_eq_iff {bytes : Bytes} {events : List Event} :
    decode bytes = events ↔ ∃ used rest, bytes = used ++ rest ∧ (∀ e ∈ events, e.Fits) ∧
      Spells (places events) used ∧
      ∀ e front, front <+: rest → Spells (eventGrammar.places e) front → ¬ e.Legible := by
  constructor
  · rintro rfl
    fun_induction decode bytes with
    | case1 bytes stops =>
      exact ⟨[], bytes, rfl, by simp, .nil, read_eq_none_iff.1 stops⟩
    | case2 bytes e rest taken _ ih =>
      obtain ⟨used, rest, rfl, fits, spelled, ahead⟩ := ih
      obtain ⟨fits_e, front, rfl, spells_e⟩ := eventGrammar.accepted taken
      exact ⟨front ++ used, rest, (List.append_assoc ..).symm,
        List.forall_mem_cons.2 ⟨fits_e, fits⟩, spells_e.append spelled, ahead⟩
  · rintro ⟨used, rest, rfl, fits, spelled, ahead⟩
    rw [decode_append fits spelled, decode_eq_nil (read_eq_none_iff.2 ahead), List.append_nil]

theorem exists_record (e : Event) (events : List Event) :
    ∃ front, front <+: recorded (e :: events) ∧ Spells (eventGrammar.places e) front := by
  refine ⟨event.write e, ?_, eventGrammar.written e ▸ spells_written _⟩
  rw [recorded_eq_encode, encode_cons]
  exact List.prefix_append ..

/-- Any bytes are the records of the events that are read from them, and a rest. Recorded again, the
events take as many bytes, which differ from the old ones only where a place leaves a choice, and
they are read as before. If the rest begins with the record of an event, then this event has more
text than a record can hold, and what the record holds of it is no text. -/
theorem decode_exact (bytes : Bytes) :
    (∃ used rest, bytes = used ++ rest ∧ used.length = (recorded (decode bytes)).length ∧
      Spells (places (decode bytes)) used ∧
      ∀ e front, front <+: rest → Spells (eventGrammar.places e) front →
        Codec.maxLength < (utf8 e.detail.reason).length ∧
          ofUtf8? (Codec.stored e.detail.reason) = none) ∧
    (places (decode bytes)).map Place.written = recorded (decode bytes) ∧
    decode (recorded (decode bytes)) = decode bytes ∧
    recorded (decode (recorded (decode bytes))) = recorded (decode bytes) := by
  obtain ⟨used, rest, split, fits, spelled, ahead⟩ := decode_eq_iff.1 (rfl : decode bytes = _)
  have written := (written_places (decode bytes)).trans (recorded_eq_encode _).symm
  have again : decode (recorded (decode bytes)) = decode bytes := by
    rw [recorded_eq_encode, decode_encode fits]
  refine ⟨⟨used, rest, split, ?_, spelled, ?_⟩, written, again, by rw [again]⟩
  · rw [← written, List.length_map]
    exact spelled.length_eq.symm
  · intro e front begins spells_e
    exact Event.not_legible_iff.1 (ahead e front begins spells_e)

/-- A text that is cut inside a character leaves a record that the reader stops in front of, though
it is the record of an event. So bytes are not always the records of what is read from them and a
rest that no record begins. -/
theorem exists_record_ahead :
    let bytes := recorded (hideAndExit 2147483648)
    ¬ ∃ used rest, bytes = used ++ rest ∧ used.length = (recorded (decode bytes)).length ∧
      Spells (places (decode bytes)) used ∧
      ∀ e front, front <+: rest → ¬ Spells (eventGrammar.places e) front := by
  rintro bytes ⟨used, rest, split, length, -, ahead⟩
  have nothing : decode bytes = [] := decode_recorded_hideAndExit (by decide)
  have unread : used = [] := by
    rw [nothing] at length
    exact List.eq_nil_of_length_eq_zero length
  rw [unread, List.nil_append] at split
  obtain ⟨front, begins, spelled⟩ : ∃ front, front <+: bytes ∧ _ := exists_record _ _
  exact ahead _ front (split ▸ begins) spelled

end Wallpaper.Recording
