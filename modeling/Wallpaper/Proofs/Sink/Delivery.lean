import Wallpaper.Proofs.Group.Events
import Wallpaper.Simulation.Run

/-! Delivery of events. What a sink is after some events, and what it shows of them meanwhile, is
put together from its deliveries one by one; a fan is nothing but its sinks. Effects that are played
through an outlet deliver their events, whatever calls stand between them. -/
namespace Wallpaper

variable {σ τ υ ω α β : Type}

namespace Sink

section All

variable [Sink σ ω]

@[simp] theorem deliverAll_nil (sink : σ) : deliverAll [] sink = pure sink := rfl

@[simp] theorem deliverAll_cons (e : Event) (rest : List Event) (sink : σ) :
    deliverAll (e :: rest) sink = deliver e sink >>= deliverAll rest :=
  List.foldlM_cons

theorem deliverAll_append (earlier later : List Event) (sink : σ) :
    deliverAll (earlier ++ later) sink = deliverAll earlier sink >>= deliverAll later :=
  List.foldlM_append

end All

theorem deliverAll_observer (name : String) (events : List Event) :
    deliverAll events (Fan.leaf (Receiver.observer name)) =
      ⟨.leaf (.observer name), events.map (⟨name, ·⟩)⟩ := by
  induction events with
  | nil => rfl
  | cons e rest ih =>
    let fan : Fan Receiver := .leaf (.observer name)
    show Emits.mk (deliverAll rest fan).result (⟨name, e⟩ :: (deliverAll rest fan).emitted) = _
    rw [ih]
    rfl

end Sink

namespace Fan

def map (f : σ → τ) : Fan σ → Fan τ
  | leaf sink => leaf (f sink)
  | both first second => both (first.map f) (second.map f)

theorem map_map (f : σ → τ) (g : τ → υ) (fan : Fan σ) : (fan.map f).map g = fan.map (g ∘ f) := by
  induction fan with
  | leaf sink => rfl
  | both first second ih₁ ih₂ => simp [map, ih₁, ih₂]

theorem map_self (fan : Fan σ) : (fan.map fun sink => sink) = fan := by
  induction fan with
  | leaf sink => rfl
  | both first second ih₁ ih₂ => simp [map, ih₁, ih₂]

theorem leaves_map (f : σ → τ) (fan : Fan σ) : (fan.map f).leaves = fan.leaves.map f := by
  induction fan with
  | leaf sink => rfl
  | both first second ih₁ ih₂ => simp [map, leaves, ih₁, ih₂]

variable [Sink σ ω] (fan : Fan σ)

theorem result_deliver (e : Event) :
    (Sink.deliver e fan).result = fan.map fun sink => (Sink.deliver e sink).result := by
  induction fan with
  | leaf sink => rfl
  | both first second ih₁ ih₂ => exact congrArg₂ both ih₁ ih₂

theorem emitted_deliver (e : Event) : (Sink.deliver e fan).emitted =
    fan.leaves.flatMap fun sink => (Sink.deliver e sink).emitted := by
  induction fan with
  | leaf sink => simp [leaves, Sink.deliver, deliver]
  | both first second ih₁ ih₂ =>
    show (Sink.deliver e first).emitted ++ ((Sink.deliver e second).emitted ++ []) = _
    simp [leaves, ih₁, ih₂]

theorem result_deliverAll (events : List Event) : (Sink.deliverAll events fan).result =
    fan.map fun sink => (Sink.deliverAll events sink).result := by
  induction events generalizing fan with
  | nil => simp [map_self]
  | cons e rest ih => simp [ih, result_deliver, map_map, Function.comp_def]

theorem leaves_deliverAll (events : List Event) : (Sink.deliverAll events fan).result.leaves =
    fan.leaves.map fun sink => (Sink.deliverAll events sink).result := by
  rw [result_deliverAll, leaves_map]

end Fan

namespace Outlet

theorem deliverAll_closed (events : List Event) : Sink.deliverAll events closed = pure closed := by
  induction events with
  | nil => rfl
  | cons e rest ih =>
    have first : Sink.deliver e closed = pure closed := rfl
    simpa [first] using ih

theorem deliverAll_ofFan (events : List Event) (fan : Fan Receiver) :
    Sink.deliverAll events (ofFan fan) = ofFan <$> Sink.deliverAll events fan := by
  induction events generalizing fan with
  | nil => rfl
  | cons e rest ih =>
    have first : Sink.deliver e (ofFan fan) = ofFan <$> Sink.deliver e fan := rfl
    simp [first, ih]

/-- An outlet neither loses its fan nor comes by one. -/
theorem isSome_deliverAll (events : List Event) (outlet : Outlet) :
    (Sink.deliverAll events outlet).result.fan?.isSome = outlet.fan?.isSome := by
  obtain ⟨_ | fan⟩ := outlet
  · exact congrArg (·.result.fan?.isSome) (deliverAll_closed events)
  · exact congrArg (·.result.fan?.isSome) (deliverAll_ofFan events fan)

end Outlet

@[simp] def Effect.call? : Effect → Option Call
  | .call c => some c
  | .event _ => none

namespace Emits

def calls (x : Emits Effect α) : List Call := x.emitted.filterMap Effect.call?

@[simp] theorem calls_pure (a : α) : (pure a : Emits Effect α).calls = [] := rfl

@[simp] theorem calls_bind (first : Emits Effect α) (next : α → Emits Effect β) :
    (first >>= next).calls = first.calls ++ (next first.result).calls := by
  simp [calls]

@[simp] theorem calls_map (f : α → β) (x : Emits Effect α) : (f <$> x).calls = x.calls := by
  simp [calls]

end Emits

namespace Group

@[simp] theorem calls_ask (x : Emits Call α) : (ask x).calls = x.emitted := by
  have all : Effect.call? ∘ Effect.call = some := rfl
  simp [ask, Emits.calls, all]

@[simp] theorem calls_report (header : Header) (detail : Detail) :
    (report header detail).calls = [] := rfl

end Group

namespace Simulation

namespace LogEntry

@[simp] def call? : LogEntry → Option Call
  | call c => some c
  | seen _ => none

@[simp] def seen? : LogEntry → Option Sighting
  | call _ => none
  | seen s => some s

end LogEntry

theorem calls_play (outlet : Outlet) (effects : List Effect) :
    (play outlet effects).emitted.filterMap LogEntry.call? =
      effects.filterMap Effect.call? := by
  induction effects generalizing outlet with
  | nil => rfl
  | cons effect rest ih =>
    cases effect with
    | call c => simp [play, ih]
    | event e => simp [play, ih, List.filterMap_cons]

theorem seen_play (outlet : Outlet) (effects : List Effect) :
    let taken := Sink.deliverAll (effects.filterMap Effect.event?) outlet
    (play outlet effects).emitted.filterMap LogEntry.seen? = taken.emitted ∧
      (play outlet effects).result = taken.result := by
  induction effects generalizing outlet with
  | nil => exact ⟨rfl, rfl⟩
  | cons effect rest ih =>
    cases effect with
    | call c => simpa [play, List.filterMap_cons, Effect.event?] using ih outlet
    | event e =>
      obtain ⟨seen, result⟩ := ih (outlet.deliver e).result
      have all : LogEntry.seen? ∘ LogEntry.seen = some := rfl
      constructor
      · simp [play, all, seen, Effect.event?, Sink.deliver]
      · simp [play, result, Effect.event?, Sink.deliver]

namespace Stage

theorem getElem?_returned {fans : List (Fan Receiver)} {place : Nat} {outlet : Outlet}
    (same : outlet.fan?.isSome = fans[place]?.isSome) :
    (returned fans (some place) outlet)[place]? = outlet.fan? := by
  obtain ⟨_ | fan⟩ := outlet
  · simpa [returned] using same
  · have inside : place < fans.length := by simpa using same
    simp [returned, inside]

theorem getElem?_returned_ne (fans : List (Fan Receiver)) {place : Nat} {named : Option Nat}
    (other : named ≠ some place) (outlet : Outlet) :
    (returned fans named outlet)[place]? = fans[place]? := by
  unfold returned
  split
  · rename_i named fan _
    exact List.getElem?_set_ne fun same => other (congrArg some same)
  · rfl

end Stage

end Simulation

end Wallpaper
