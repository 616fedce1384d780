import Wallpaper.Proofs.Wire.Fields
import Wallpaper.Recording.Layout

/-! The grammar of recordings. The record of an event is its tag, its header and the fields of its
detail, each spelled as its codec spells it. A reader that stands in front of a record takes this
record and nothing more. -/
namespace Wallpaper

def Detail.reason : Detail → String
  | .hide _ reason _ => reason
  | _ => ""

/-- The text of the event is no longer than a length prefix can hold. -/
def Event.Fits (e : Event) : Prop := (Wire.utf8 e.detail.reason).length ≤ Wire.Codec.maxLength

instance (e : Event) : Decidable e.Fits := inferInstanceAs (Decidable (_ ≤ _))

/-- What a record holds of the text of the event is a text again: the cut, if there is one, does
not fall inside a character. -/
def Event.Legible (e : Event) : Prop :=
  ∃ s, Wire.ofUtf8? (Wire.Codec.stored e.detail.reason) = some s

namespace Recording

open Wire

def surfaceGrammar : Grammar surface := Grammar.word32.as _ _ (fun _ _ => rfl) (fun _ => rfl)

def headerGrammar : Grammar header :=
  (Grammar.as (.both .word32 (.both .word32 .word64)) _ _ (fun _ _ => rfl) (fun _ => rfl)).total
    fun _ => ⟨trivial, trivial, trivial⟩

def changeGrammar : Grammar (.choice Change.all) :=
  .choice _ (fun c => by cases c <;> decide) (by decide) (by decide)

def operationGrammar : Grammar (.choice Operation.all) :=
  .choice _ (fun o => by cases o <;> decide) (by decide) (by decide)

theorem mem_outcomes (o : Outcome) : o ∈ Outcome.all := by
  cases o with
  | delivered => decide
  | failed error => cases error <;> decide
  | unchanged => decide

def outcomeGrammar : Grammar (.choice Outcome.all) :=
  .choice _ mem_outcomes (by decide) (by decide)

def membershipGrammar : Grammar membership := .both surfaceGrammar (.both changeGrammar .word32)

def exitGrammar : Grammar exit := .word32

def hideGrammar : Grammar hide := .both .flag (.both .word32 .text)

def optionalSurfaceGrammar :
    Grammar (.as .optionalWord32 (Option.map SurfaceId.mk) (Option.map SurfaceId.number)) :=
  Grammar.optionalWord32.as _ _ (fun w? _ => by cases w? <;> rfl) (fun id? => by cases id? <;> rfl)

def broadcastGrammar : Grammar broadcast :=
  .both operationGrammar (.both .word32 (.both optionalSurfaceGrammar .word32))

def visibilityGrammar : Grammar visibility := .flag

def dispatchGrammar : Grammar dispatch :=
  .both operationGrammar (.both surfaceGrammar (.both .flag outcomeGrammar))

def detailPlaces : Detail → List Place
  | .membership surface change members => membershipGrammar.places (surface, change, members)
  | .exit members => exitGrammar.places members
  | .hide hidden reason members => hideGrammar.places (hidden, members, reason)
  | .broadcast operation members synchronous failures =>
    broadcastGrammar.places (operation, members, synchronous, failures)
  | .visibility hidden => visibilityGrammar.places hidden
  | .dispatch operation surface synchronous outcome =>
    dispatchGrammar.places (operation, surface, synchronous, outcome)

theorem written_detailPlaces (d : Detail) : (detailPlaces d).map Place.written = writeDetail d := by
  cases d with
  | membership => exact membershipGrammar.written _
  | exit => exact exitGrammar.written _
  | hide => exact hideGrammar.written _
  | broadcast => exact broadcastGrammar.written _
  | visibility => exact visibilityGrammar.written _
  | dispatch => exact dispatchGrammar.written _

theorem readDetail_tag {d : Detail} {used : Bytes} (fits : (utf8 d.reason).length ≤ Codec.maxLength)
    (spelled : Spells (detailPlaces d) used) (rest : Bytes) :
    readDetail (tag d) (used ++ rest) = some (d, rest) := by
  cases d with
  | membership =>
    exact Reader.map_eq_some_iff.2
      ⟨_, membershipGrammar.accepts ⟨trivial, trivial, trivial⟩ spelled rest, rfl⟩
  | exit => exact Reader.map_eq_some_iff.2 ⟨_, exitGrammar.accepts trivial spelled rest, rfl⟩
  | hide hidden reason members =>
    have whole : hideGrammar.Fits (hidden, members, reason) := ⟨trivial, trivial, fits⟩
    exact Reader.map_eq_some_iff.2 ⟨_, hideGrammar.accepts whole spelled rest, rfl⟩
  | broadcast =>
    exact Reader.map_eq_some_iff.2
      ⟨_, broadcastGrammar.accepts ⟨trivial, trivial, trivial, trivial⟩ spelled rest, rfl⟩
  | visibility =>
    exact Reader.map_eq_some_iff.2 ⟨_, visibilityGrammar.accepts trivial spelled rest, rfl⟩
  | dispatch =>
    exact Reader.map_eq_some_iff.2
      ⟨_, dispatchGrammar.accepts ⟨trivial, trivial, trivial, trivial⟩ spelled rest, rfl⟩

theorem utf8_empty_le : (utf8 "").length ≤ Codec.maxLength := Nat.zero_le _

/-- Whatever a tag makes of the bytes is spelled by them, and has this tag. -/
theorem spelled_of_readDetail {t : UInt8} {d : Detail} {bytes rest : Bytes}
    (taken : readDetail t bytes = some (d, rest)) :
    t = tag d ∧ (utf8 d.reason).length ≤ Codec.maxLength ∧
      ∃ used, bytes = used ++ rest ∧ Spells (detailPlaces d) used := by
  generalize chosen : readDetail t = read at taken
  unfold readDetail at chosen
  split at chosen <;> subst chosen
  · obtain ⟨_, read, rfl⟩ := Reader.map_eq_some_iff.1 taken
    exact ⟨UInt8.toNat_inj.1 ‹_›, utf8_empty_le, (membershipGrammar.accepted read).2⟩
  · obtain ⟨_, read, rfl⟩ := Reader.map_eq_some_iff.1 taken
    exact ⟨UInt8.toNat_inj.1 ‹_›, utf8_empty_le, (exitGrammar.accepted read).2⟩
  · obtain ⟨_, read, rfl⟩ := Reader.map_eq_some_iff.1 taken
    obtain ⟨⟨-, -, fits⟩, spelled⟩ := hideGrammar.accepted read
    exact ⟨UInt8.toNat_inj.1 ‹_›, fits, spelled⟩
  · obtain ⟨_, read, rfl⟩ := Reader.map_eq_some_iff.1 taken
    exact ⟨UInt8.toNat_inj.1 ‹_›, utf8_empty_le, (broadcastGrammar.accepted read).2⟩
  · obtain ⟨_, read, rfl⟩ := Reader.map_eq_some_iff.1 taken
    exact ⟨UInt8.toNat_inj.1 ‹_›, utf8_empty_le, (visibilityGrammar.accepted read).2⟩
  · obtain ⟨_, read, rfl⟩ := Reader.map_eq_some_iff.1 taken
    exact ⟨UInt8.toNat_inj.1 ‹_›, utf8_empty_le, (dispatchGrammar.accepted read).2⟩
  · cases taken

def eventGrammar : Grammar event where
  places e := .exactly (tag e.detail) :: (headerGrammar.places e.toHeader ++ detailPlaces e.detail)
  Fits := Event.Fits
  written e := by
    rw [List.map_cons, List.map_append, headerGrammar.written, written_detailPlaces]
    rfl
  accepts {e} used fits spelled rest := by
    obtain ⟨t, body, same, spells_body, rfl⟩ := List.forall₂_cons_left_iff.1 spelled
    cases (show t = tag e.detail from same)
    obtain ⟨front, back, rfl, spells_header, spells_detail⟩ := Spells.split spells_body
    refine Reader.bind_eq_some_iff.2 ⟨tag e.detail, front ++ back ++ rest, rfl, ?_⟩
    refine Reader.bind_eq_some_iff.2 ⟨e.toHeader, back ++ rest, ?_, ?_⟩
    · rw [List.append_assoc]
      exact headerGrammar.accepts trivial spells_header _
    · exact Reader.map_eq_some_iff.2 ⟨e.detail, readDetail_tag fits spells_detail rest, rfl⟩
  accepted {e bytes rest} taken := by
    obtain ⟨t, body, front, taken⟩ := Reader.bind_eq_some_iff.1 taken
    obtain ⟨h, middle, read_header, taken⟩ := Reader.bind_eq_some_iff.1 taken
    obtain ⟨d, read_detail, rfl⟩ := Reader.map_eq_some_iff.1 taken
    obtain ⟨-, used, rfl, spells_header⟩ := headerGrammar.accepted read_header
    obtain ⟨rfl, fits, more, rfl, spells_detail⟩ := spelled_of_readDetail read_detail
    cases Reader.byte_eq_some_iff.1 front
    exact ⟨fits, tag d :: (used ++ more), by simp,
      .cons rfl (spells_header.append spells_detail)⟩

def places (events : List Event) : List Place := events.flatMap eventGrammar.places

theorem written_places (events : List Event) :
    (places events).map Place.written = encode events := by
  simp only [places, encode, List.map_flatMap, eventGrammar.written]

end Recording

end Wallpaper
