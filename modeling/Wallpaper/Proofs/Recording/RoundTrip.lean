import Wallpaper.Proofs.Recording.Grammar
import Wallpaper.Sink.Receiver

/-! Reading a recording back. A reader that stands in front of the record of an event takes this
record and goes on behind it. So what was recorded is read as it was, whatever follows it. -/
namespace Wallpaper

theorem Event.Fits.legible {e : Event} (h : e.Fits) : e.Legible :=
  ⟨e.detail.reason, Wire.Codec.ofUtf8?_stored_of_le h⟩

namespace Recording

open Wire

def recorded (events : List Event) : Bytes :=
  (Sink.deliverAll events (Receiver.recorder [])).result.recorded

theorem deliverAll_recorder (events : List Event) (before : Bytes) :
    (Sink.deliverAll events (Receiver.recorder before)).result =
      .recorder (before ++ encode events) := by
  induction events generalizing before with
  | nil => simp [Sink.deliverAll, encode]
  | cons e events ih =>
    have rest := ih (before ++ event.write e)
    simp only [Sink.deliverAll, List.foldlM_cons, Emits.result_bind] at rest ⊢
    rw [show (Sink.deliver e (Receiver.recorder before)).result =
      .recorder (before ++ event.write e) from rfl, rest]
    simp [encode]

theorem recorded_eq_encode (events : List Event) : recorded events = encode events := by
  rw [recorded, deliverAll_recorder]
  rfl

theorem decode_of_read {bytes rest : Bytes} {e : Event}
    (taken : event.read bytes = some (e, rest)) : decode bytes = e :: decode rest := by
  rw [decode]
  split
  · rename_i stops
    rw [taken] at stops
    cases stops
  · rename_i goes
    rw [taken] at goes
    cases goes
    rfl

theorem decode_eq_nil {bytes : Bytes} (stops : event.read bytes = none) : decode bytes = [] := by
  rw [decode]
  split
  · rfl
  · rename_i goes
    rw [stops] at goes
    cases goes

theorem decode_append {events : List Event} (fits : ∀ e ∈ events, e.Fits) {used : Bytes}
    (spelled : Spells (places events) used) (rest : Bytes) :
    decode (used ++ rest) = events ++ decode rest := by
  induction events generalizing used with
  | nil =>
    cases spelled
    rfl
  | cons e events ih =>
    obtain ⟨fits_e, fits_events⟩ := List.forall_mem_cons.1 fits
    obtain ⟨front, back, rfl, spells_e, spells_events⟩ := Spells.split spelled
    rw [List.append_assoc, decode_of_read (eventGrammar.accepts fits_e spells_e _),
      ih fits_events spells_events, List.cons_append]

theorem decode_encode_append {events : List Event} (fits : ∀ e ∈ events, e.Fits) (rest : Bytes) :
    decode (encode events ++ rest) = events ++ decode rest :=
  decode_append fits (written_places events ▸ spells_written _) rest

theorem decode_encode {events : List Event} (fits : ∀ e ∈ events, e.Fits) :
    decode (encode events) = events := by
  have alone := decode_encode_append fits []
  have nothing : decode [] = [] := decode_eq_nil rfl
  rwa [List.append_nil, nothing, List.append_nil] at alone

/-- What was recorded is read as it was, and what follows it is read as if it stood alone. -/
theorem decode_recorded_append (events : List Event) (fits : ∀ e ∈ events, e.Fits) :
    (∀ rest, decode (recorded events ++ rest) = events ++ decode rest) ∧
      decode (recorded events) = events := by
  rw [recorded_eq_encode]
  exact ⟨decode_encode_append fits, decode_encode fits⟩

/-- One event of each kind, with numbers at both ends of their range. -/
def everyKind : List Event :=
  [⟨⟨⟨0⟩, ⟨4⟩, 0⟩, .membership ⟨12⟩ .rejected 4294967295⟩,
    ⟨⟨⟨1⟩, ⟨0⟩, 1⟩, .hide true "clé\n\x00" 2⟩,
    ⟨⟨⟨1⟩, ⟨4⟩, 18446744073709551615⟩, .broadcast .layers 3 (some ⟨0⟩) 7⟩,
    ⟨⟨⟨1⟩, ⟨4⟩, 2⟩, .broadcast .command 3 none 7⟩,
    ⟨⟨⟨1⟩, ⟨4⟩, 3⟩, .visibility false⟩,
    ⟨⟨⟨1⟩, ⟨4⟩, 4⟩, .dispatch .offsets ⟨9⟩ true (.failed .detached)⟩,
    ⟨⟨⟨1⟩, ⟨4294967295⟩, 5⟩, .exit 0⟩]

theorem decode_recorded_everyKind :
    (∀ e ∈ everyKind, e.Fits) ∧
      (∀ rest, decode (recorded everyKind ++ rest) = everyKind ++ decode rest) ∧
      decode (recorded everyKind) = everyKind :=
  have fits : ∀ e ∈ everyKind, e.Fits := by decide
  ⟨fits, decode_recorded_append everyKind fits⟩

end Recording

end Wallpaper
