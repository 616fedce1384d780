import Mathlib.Data.List.Basic
import Wallpaper.Proofs.Text.JsonGrammar
import Wallpaper.Timeline

/-! What can be read off a timeline. The marks of a timeline keep every field of their events, so
the events of a recording can be read off its timeline, all of them and in their order, with any
reader of JSON. -/
namespace Wallpaper.Timeline

open Text Wire

theorem surface_inj {a b : SurfaceId} : surface a = surface b ↔ a = b := by
  cases a; cases b
  simp [surface, UInt32.toNat_inj]

theorem synchronous_inj {a b : Option SurfaceId}
    (same : (a.map surface).getD .null = (b.map surface).getD .null) : a = b := by
  cases a with
  | none => cases b with
    | none => rfl
    | some b => cases same
  | some a => cases b with
    | none => cases same
    | some b => rw [surface_inj.1 same]

/-- The names of the arguments tell the kinds of event apart. -/
theorem mark_inj {a b : Detail} (name : (mark a).name = (mark b).name)
    (args : (mark a).args = (mark b).args) : a = b := by
  cases a with
  | membership id change members =>
    cases b with
    | membership id' change' members' =>
      obtain ⟨rfl, rfl⟩ : members = members' ∧ id = id' := by
        simpa [mark, surface_inj, UInt32.toNat_inj] using args
      rw [Change.eq_of_title name]
    | _ => simp [mark] at args
  | exit members =>
    cases b with
    | exit members' =>
      obtain rfl : members = members' := by simpa [mark, UInt32.toNat_inj] using args
      rfl
    | _ => simp [mark] at args
  | hide hidden reason members =>
    cases b with
    | hide hidden' reason' members' =>
      obtain ⟨rfl, rfl⟩ : members = members' ∧ reason = reason' := by
        simpa [mark, UInt32.toNat_inj] using args
      have flag : hidden = hidden' := by
        revert name
        cases hidden <;> cases hidden' <;> simp [mark]
      rw [flag]
    | _ => simp [mark] at args
  | broadcast operation members synchronous failures =>
    cases b with
    | broadcast operation' members' synchronous' failures' =>
      obtain ⟨rfl, rfl, synchronous_same⟩ : failures = failures' ∧ members = members' ∧
          (synchronous.map surface).getD .null = (synchronous'.map surface).getD .null := by
        simpa [mark, UInt32.toNat_inj] using args
      rw [Operation.eq_of_name name, synchronous_inj synchronous_same]
    | _ => simp [mark] at args
  | visibility hidden =>
    cases b with
    | visibility hidden' =>
      obtain rfl : hidden = hidden' := by simpa [mark] using args
      rfl
    | _ => simp [mark] at args
  | dispatch operation id synchronous outcome =>
    cases b with
    | dispatch operation' id' synchronous' outcome' =>
      obtain ⟨title, rfl, rfl⟩ : outcome.title = outcome'.title ∧ id = id' ∧
          synchronous = synchronous' := by
        simpa [mark, surface_inj] using args
      have operations : operation.name = operation'.name := by simpa [mark] using name
      rw [Operation.eq_of_name operations, Outcome.eq_of_title title]
    | _ => simp [mark] at args

theorem entry_injective : Function.Injective entry := by
  intro a b same
  obtain ⟨⟨⟨display⟩, ⟨token⟩, seq⟩, detail⟩ := a
  obtain ⟨⟨⟨display'⟩, ⟨token'⟩, seq'⟩, detail'⟩ := b
  obtain ⟨args, -, name, rfl, -, rfl, rfl⟩ : (mark detail).args = (mark detail').args ∧
      _ ∧ (mark detail).name = (mark detail').name ∧ display = display' ∧ _ ∧
      token = token' ∧ seq = seq' := by
    simpa only [entry, Json.object.injEq, List.cons.injEq, Prod.mk.injEq, Json.string.injEq,
      Json.number.injEq, UInt32.toNat_inj, UInt64.toNat_inj, true_and, and_true] using same
  rw [mark_inj name args]

theorem stored_write (recording : Bytes) :
    write recording .unlimited =
      ⟨utf8 (ofEvents (Recording.decode recording)).text, .unlimited, true⟩ :=
  Room.write_unlimited _

/-- A timeline that is written without a limit is one text that stands for the array of the entries
of the recorded events, and for nothing else; and recordings with the same timeline hold the same
events. -/
theorem write_faithful (recording : Bytes) :
    let written := write recording .unlimited
    let events := Recording.decode recording
    written.complete = true ∧
    (∃ text, written.stored = utf8 text ∧
      ∀ value, Json.Reads text value ↔ value = .array (events.map entry)) ∧
    (∀ e ∈ events, ∃ fields, entry e = .object fields) ∧
    ∀ other, (write other .unlimited).stored = written.stored →
      Recording.decode other = events := by
  intro written events
  simp only [written, stored_write, true_and]
  refine ⟨⟨_, rfl, fun value => Json.reads_text_iff⟩, fun e _ => ⟨_, rfl⟩, ?_⟩
  intro other same
  have texts := utf8_injective same
  have value : ofEvents (Recording.decode other) = ofEvents events :=
    Json.reads_text_iff.1 (texts ▸ Json.reads_text _)
  exact List.map_injective_iff.2 entry_injective (Json.array.inj value)

end Wallpaper.Timeline
