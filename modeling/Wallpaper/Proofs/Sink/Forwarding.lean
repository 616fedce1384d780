import Mathlib.Data.List.Nodup
import Wallpaper.Proofs.Sink.Delivery

/-! Forwarding. To see who is handed what, and when, every sink of a fan is given a numbered seat
that notes each event before the sink takes it; notes change nothing. Each sink takes all events
and fares as it would alone, and one event goes round all seats before the next one comes. -/
namespace Wallpaper

variable {σ ω : Type}

/-- A sink, its place in the fan from left to right, and the events it was handed. -/
structure Seat (σ : Type) where
  place : Nat
  received : List Event
  sink : σ

/-- What can be seen of a seat. -/
inductive Handover (ω : Type) where
  | handed (place : Nat) (event : Event)
  | shown (place : Nat) (what : ω)

namespace Handover

def handed? : Handover ω → Option (Nat × Event)
  | handed place e => some (place, e)
  | shown .. => none

def shown? : Handover ω → Option ω
  | handed .. => none
  | shown _ what => some what

/-- What the sink at this place shows. -/
def shownAt? (place : Nat) : Handover ω → Option ω
  | handed .. => none
  | shown there what => if there = place then some what else none

end Handover

namespace Seat

variable [Sink σ ω]

def deliver (e : Event) (seat : Seat σ) : Emits (Handover ω) (Seat σ) := do
  Emits.emit (.handed seat.place e)
  let sink ← (Sink.deliver e seat.sink).relabel (.shown seat.place)
  return { seat with received := seat.received ++ [e], sink }

instance : Sink (Seat σ) (Handover ω) where
  deliver := deliver

theorem result_deliver (e : Event) (seat : Seat σ) : (Sink.deliver e seat).result =
    { seat with received := seat.received ++ [e], sink := (Sink.deliver e seat.sink).result } :=
  rfl

theorem emitted_deliver (e : Event) (seat : Seat σ) : (Sink.deliver e seat).emitted =
    .handed seat.place e :: (Sink.deliver e seat.sink).emitted.map (.shown seat.place) :=
  congrArg (_ :: ·) (List.append_nil _)

theorem result_deliverAll (events : List Event) (seat : Seat σ) :
    (Sink.deliverAll events seat).result = { seat with
      received := seat.received ++ events
      sink := (Sink.deliverAll events seat.sink).result } := by
  induction events generalizing seat with
  | nil => simp
  | cons e rest ih => simp [ih, result_deliver]

end Seat

namespace Fan

/-- Seats for the sinks, numbered from left to right. -/
def seatedFrom (place : Nat) : Fan σ → Fan (Seat σ)
  | leaf sink => leaf ⟨place, [], sink⟩
  | both first second =>
    both (first.seatedFrom place) (second.seatedFrom (place + first.leaves.length))

def seated (fan : Fan σ) : Fan (Seat σ) := fan.seatedFrom 0

theorem leaves_seatedFrom (place : Nat) (fan : Fan σ) : (fan.seatedFrom place).leaves =
    (fan.leaves.zipIdx place).map fun p => ⟨p.2, [], p.1⟩ := by
  induction fan generalizing place with
  | leaf sink => rfl
  | both first second ih₁ ih₂ => simp [seatedFrom, leaves, ih₁, ih₂, List.zipIdx_append]

theorem map_sink_seatedFrom (place : Nat) (fan : Fan σ) :
    (fan.seatedFrom place).map Seat.sink = fan := by
  induction fan generalizing place with
  | leaf sink => rfl
  | both first second ih₁ ih₂ => simp [seatedFrom, map, ih₁, ih₂]

variable [Sink σ ω]

section Seated

variable (fan : Fan (Seat σ))

theorem places_deliver (e : Event) :
    (Sink.deliver e fan).result.leaves.map Seat.place = fan.leaves.map Seat.place := by
  simp [result_deliver, leaves_map, Seat.result_deliver, Function.comp_def]

theorem handed_deliver (e : Event) :
    (Sink.deliver e fan).emitted.filterMap Handover.handed? =
      (fan.leaves.map Seat.place).map (·, e) := by
  have one (seat : Seat σ) :
      (Sink.deliver e seat).emitted.filterMap Handover.handed? = [(seat.place, e)] := by
    simp [Seat.emitted_deliver, Handover.handed?, List.filterMap_map, Function.comp_def]
  rw [emitted_deliver, List.filterMap_flatMap, List.map_map, List.map_eq_flatMap]
  simp only [one, Function.comp_apply]

theorem handed_deliverAll (events : List Event) :
    (Sink.deliverAll events fan).emitted.filterMap Handover.handed? =
      events.flatMap fun e => (fan.leaves.map Seat.place).map (·, e) := by
  induction events generalizing fan with
  | nil => simp
  | cons e rest ih => simp [ih, handed_deliver, places_deliver]

theorem shown_deliver (e : Event) :
    (Sink.deliver e fan).emitted.filterMap Handover.shown? =
      (Sink.deliver e (fan.map Seat.sink)).emitted := by
  have one (seat : Seat σ) : (Sink.deliver e seat).emitted.filterMap Handover.shown? =
      (Sink.deliver e seat.sink).emitted := by
    simp [Seat.emitted_deliver, Handover.shown?, List.filterMap_cons, List.filterMap_map,
      Function.comp_def]
  rw [emitted_deliver, emitted_deliver, List.filterMap_flatMap, leaves_map, List.flatMap_map]
  simp only [one]

/-- Seats change nothing for the sinks and nothing that they show. -/
theorem shown_deliverAll (events : List Event) :
    (Sink.deliverAll events fan).emitted.filterMap Handover.shown? =
        (Sink.deliverAll events (fan.map Seat.sink)).emitted ∧
      (Sink.deliverAll events fan).result.map Seat.sink =
        (Sink.deliverAll events (fan.map Seat.sink)).result := by
  constructor
  · induction events generalizing fan with
    | nil => simp
    | cons e rest ih =>
      have next : (Sink.deliver e fan).result.map Seat.sink =
          (Sink.deliver e (fan.map Seat.sink)).result := by
        simp [result_deliver, map_map, Seat.result_deliver, Function.comp_def]
      simp [ih, shown_deliver, next]
  · simp [result_deliverAll, map_map, Seat.result_deliverAll, Function.comp_def]

/-- While an event goes round, each place shows what its own sink shows. -/
theorem shownAt_deliver (e : Event) {seats : List (Seat σ)}
    (distinct : (seats.map Seat.place).Nodup) {seat : Seat σ} (there : seat ∈ seats) :
    (seats.flatMap fun seat => (Sink.deliver e seat).emitted).filterMap
        (Handover.shownAt? seat.place) = (Sink.deliver e seat.sink).emitted := by
  have own : (Sink.deliver e seat).emitted.filterMap (Handover.shownAt? seat.place) =
      (Sink.deliver e seat.sink).emitted := by
    simp [Seat.emitted_deliver, Handover.shownAt?, List.filterMap_cons, List.filterMap_map,
      Function.comp_def]
  have others {rest : List (Seat σ)} (apart : seat.place ∉ rest.map Seat.place) :
      rest.flatMap (fun other =>
        (Sink.deliver e other).emitted.filterMap (Handover.shownAt? seat.place)) = [] := by
    apply List.flatMap_eq_nil_iff.2
    intro other mem
    have elsewhere : other.place ≠ seat.place := fun same =>
      apart (same ▸ List.mem_map_of_mem mem)
    simp [Seat.emitted_deliver, Handover.shownAt?, List.filterMap_cons, List.filterMap_map,
      Function.comp_def, elsewhere]
  obtain ⟨before, after, rfl⟩ := List.append_of_mem there
  simp only [List.map_append, List.map_cons, List.nodup_middle, List.nodup_cons, List.mem_append,
    not_or] at distinct
  simp [List.filterMap_flatMap, own, others distinct.1.1, others distinct.1.2]

theorem shownAt_deliverAll (events : List Event) (distinct : (fan.leaves.map Seat.place).Nodup)
    {seat : Seat σ} (there : seat ∈ fan.leaves) :
    (Sink.deliverAll events fan).emitted.filterMap (Handover.shownAt? seat.place) =
      (Sink.deliverAll events seat.sink).emitted := by
  induction events generalizing fan seat with
  | nil => simp
  | cons e rest ih =>
    have now := shownAt_deliver e distinct there
    rw [← emitted_deliver] at now
    have after : (Sink.deliver e seat).result ∈ (Sink.deliver e fan).result.leaves := by
      rw [result_deliver, leaves_map]
      exact List.mem_map_of_mem there
    have later := ih _ (by rwa [places_deliver]) after
    simp only [Sink.deliverAll_cons, Emits.emitted_bind, List.filterMap_append, now]
    exact congrArg (_ ++ ·) later

end Seated

/-- Every sink takes every event as it is and in its turn, and fares and shows as it would alone.
Every event is handed to all of them, from left to right, before the next one is handed to any. -/
theorem handed_to_all (fan : Fan σ) (events : List Event) :
    let seated := Sink.deliverAll events fan.seated
    seated.result.leaves = fan.leaves.mapIdx (fun place sink =>
        ⟨place, events, (Sink.deliverAll events sink).result⟩) ∧
      seated.emitted.filterMap Handover.handed? =
        (events.flatMap fun e => (List.range fan.leaves.length).map (·, e)) ∧
      (∀ place sink, fan.leaves[place]? = some sink →
        seated.emitted.filterMap (Handover.shownAt? place) =
          (Sink.deliverAll events sink).emitted) ∧
      seated.result.map Seat.sink = (Sink.deliverAll events fan).result ∧
      seated.emitted.filterMap Handover.shown? = (Sink.deliverAll events fan).emitted := by
  intro seated
  have leaves : fan.seated.leaves = fan.leaves.mapIdx fun place sink => ⟨place, [], sink⟩ := by
    rw [Fan.seated, leaves_seatedFrom, List.mapIdx_eq_zipIdx_map]
  have places : fan.seated.leaves.map Seat.place = List.range fan.leaves.length := by
    simp [leaves, List.mapIdx_eq_zipIdx_map, Function.comp_def, List.range_eq_range']
  obtain ⟨shown, result⟩ := shown_deliverAll fan.seated events
  rw [show fan.seated.map Seat.sink = fan from map_sink_seatedFrom 0 fan] at shown result
  refine ⟨?_, ?_, ?_, result, shown⟩
  · show (Sink.deliverAll events fan.seated).result.leaves = _
    rw [result_deliverAll, leaves_map, leaves]
    apply List.ext_getElem?
    simp [Seat.result_deliverAll, Function.comp_def]
  · rw [← places]
    exact handed_deliverAll fan.seated events
  · intro place sink there
    have seat : ⟨place, [], sink⟩ ∈ fan.seated.leaves := by
      rw [leaves]
      apply List.mem_of_getElem? (i := place)
      simp [there]
    exact shownAt_deliverAll fan.seated events (places ▸ List.nodup_range) seat

-- A printer without room fails at every line, and the observer behind it misses none.
example (e : Event) :
    let fan : Fan Receiver := .both (.leaf (.printer ⟨[], .bytes 0⟩)) (.leaf (.observer "next"))
    (Sink.deliverAll [e, e] fan).emitted = [⟨"next", e⟩, ⟨"next", e⟩] :=
  rfl

end Fan
end Wallpaper
