import Mathlib.Data.List.Induction
import Wallpaper.Proofs.Group.Chronicle

/-! Sweeps stop by stop. A sweep stops at every member, the newest first; what it emits, leaves of
the members, and has learned at the end is put together from its stops in their order. What every
visit keeps holds at every stop and at the end. So it is with the request to be synchronous, which
is passed on from stop to stop until somebody takes it. -/
namespace Wallpaper

variable {σ s α β : Type}

/-- Of every entry this holds, given the entries before it. -/
def Throughout (holds : List α → α → Prop) (list : List α) : Prop :=
  ∀ earlier a later, list = earlier ++ a :: later → holds earlier a

section Throughout

variable {holds : List α → α → Prop} {list : List α}

theorem throughout_nil : Throughout holds [] := by
  intro earlier a later split
  simp at split

theorem throughout_concat {a : α} :
    Throughout holds (list ++ [a]) ↔ Throughout holds list ∧ holds list a := by
  constructor
  · intro all
    exact ⟨fun earlier b later split => all earlier b (later ++ [a]) (by simp [split]),
      all list a [] rfl⟩
  · rintro ⟨all, last⟩ earlier b later split
    rcases List.eq_nil_or_concat later with rfl | ⟨rest, c, rfl⟩
    · obtain ⟨rfl, same⟩ := List.append_inj' split rfl
      exact List.singleton_inj.1 same ▸ last
    · have longer : list ++ [a] = (earlier ++ b :: rest) ++ [c] := by simpa using split
      exact all earlier b rest (List.append_inj' longer rfl).1

theorem throughout_map {f : β → α} {list : List β} : Throughout holds (list.map f) ↔
    Throughout (fun earlier b => holds (earlier.map f) (f b)) list := by
  induction list using List.reverseRecOn with
  | nil => exact iff_of_true throughout_nil throughout_nil
  | append_singleton rest b ih =>
    rw [List.map_append, List.map_singleton, throughout_concat, throughout_concat, ih]

end Throughout

/-- Each is asked to be synchronous if that was requested and nobody before it took the request. -/
def Offered (requested : Bool) (asked takes : α → Bool) : List α → Prop :=
  Throughout fun earlier a => asked a = true ↔ requested = true ∧ ∀ b ∈ earlier, takes b = false

/-- The first who would take the request is the only one who takes it. -/
theorem Offered.filter_took {requested : Bool} {asked takes : α → Bool} {list : List α}
    (offered : Offered requested asked takes list) :
    list.filter (fun a => asked a && takes a) =
      if requested then (list.find? takes).toList else [] := by
  induction list using List.reverseRecOn with
  | nil => simp
  | append_singleton rest a ih =>
    obtain ⟨earlier, last⟩ := throughout_concat.1 offered
    rw [List.filter_append, ih earlier, List.find?_append]
    cases requested with
    | false =>
      have unasked : asked a = false := by simpa using last
      simp [unasked]
    | true =>
      cases found : rest.find? takes with
      | none =>
        have open_still : ∀ b ∈ rest, takes b = false := by simpa using found
        have now : asked a = true := last.2 ⟨rfl, open_still⟩
        cases taking : takes a <;> simp [now, taking]
      | some b =>
        have closed : asked a = false := by
          refine Bool.eq_false_iff.2 fun now => ?_
          have passed := (last.1 now).2 b (List.mem_of_find?_eq_some found)
          simp [List.find?_some found] at passed
        simp [closed]

/-- A member that a sweep comes to, and what the visits before it have left. -/
structure Stop (s σ : Type) where
  state : s
  member : σ

def Visit.delivered (v : Visit) : Bool := v.outcome == .delivered

theorem Progress.synchronous_after (p : Progress) (v : Visit) :
    (p.after v).synchronous = (p.synchronous && !v.delivered) := by
  obtain ⟨surface, synchronous, _ | error | _⟩ := v <;>
    simp [after, accept, fail, Visit.delivered]

namespace Group

/-- The stops of a sweep in their order. -/
def stops (visit : s → σ → Emits Effect (σ × s)) (state : s) : List σ → List (Stop s σ)
  | [] => []
  | member :: newer => stops visit state newer ++ [⟨(sweep visit state newer).result.2, member⟩]

/-- Visits that leave their state as it is treat all members alike. -/
theorem result_sweep_of_same {visit : s → σ → Emits Effect (σ × s)} {state : s} {f : σ → σ}
    (same : ∀ member, (visit state member).result = (f member, state)) (members : List σ) :
    (sweep visit state members).result = (members.map f, state) := by
  induction members with
  | nil => rfl
  | cons member newer ih => simp [sweep, ih, same]

/-- The reported count depends on nothing but the number of members. -/
theorem reportedCount_of_length {g now : Group σ}
    (same : now.members.length = g.members.length) : now.reportedCount = g.reportedCount := by
  rw [reportedCount, reportedCount, same]

section Sweeping

variable (visit : s → σ → Emits Effect (σ × s)) (state : s) (members : List σ)

theorem map_member_stops : (stops visit state members).map Stop.member = members.reverse := by
  induction members with
  | nil => rfl
  | cons member newer ih => simp [stops, ih]

theorem rounds_eq_map_stops (account : s → σ → Visit) : rounds visit account state members =
    (stops visit state members).map fun p => account p.state p.member := by
  induction members with
  | nil => rfl
  | cons member newer ih => simp [rounds, stops, ih]

/-- What holds of the state before the first visit, and is kept by every visit, holds at every stop
and at the end. -/
theorem throughout_stops (holds : List (Stop s σ) → s → Prop) (first : holds [] state)
    (next : ∀ earlier p, holds earlier p.state →
      holds (earlier ++ [p]) (visit p.state p.member).result.2) :
    Throughout (fun earlier p => holds earlier p.state) (stops visit state members) ∧
      holds (stops visit state members) (sweep visit state members).result.2 := by
  induction members with
  | nil => exact ⟨throughout_nil, first⟩
  | cons member newer ih =>
    obtain ⟨all, last⟩ := ih
    exact ⟨throughout_concat.2 ⟨all, last⟩, next _ ⟨_, member⟩ last⟩

variable {visit} {f : Stop s σ → α}

theorem emitted_sweep {effects : α → List Effect}
    (every : ∀ p, (visit p.state p.member).emitted = effects (f p)) :
    (sweep visit state members).emitted =
      ((stops visit state members).map f).flatMap effects := by
  induction members with
  | nil => rfl
  | cons member newer ih => simp [sweep, stops, ih, every ⟨_, member⟩]

theorem members_sweep {after : α → σ}
    (every : ∀ p, (visit p.state p.member).result.1 = after (f p)) :
    (sweep visit state members).result.1 =
      (((stops visit state members).map f).map after).reverse := by
  induction members with
  | nil => rfl
  | cons member newer ih => simp [sweep, stops, ih, every ⟨_, member⟩]

end Sweeping

/-- A broadcast asks each member as its progress says, and learns what the visit tells. -/
structure Learns (visit : s → σ → Emits Effect (σ × s)) (progress : s → Progress)
    (told : Stop s σ → Visit) : Prop where
  asks (p : Stop s σ) : (told p).synchronous = (progress p.state).synchronous
  learns (p : Stop s σ) :
    progress (visit p.state p.member).result.2 = (progress p.state).after (told p)

namespace Learns

variable {visit : s → σ → Emits Effect (σ × s)} {progress : s → Progress} {f : Stop s σ → α}
  {told : α → Visit} (broadcast : Learns visit progress (told ∘ f)) (state : s) (members : List σ)

include broadcast

theorem offered :
    Offered (progress state).synchronous (fun a => (told a).synchronous)
      (fun a => (told a).delivered) ((stops visit state members).map f) := by
  refine throughout_map.2 ?_
  have all := (throughout_stops visit state members
    (fun earlier now => (progress now).synchronous = true ↔ (progress state).synchronous = true ∧
      ∀ a ∈ earlier.map f, (told a).delivered = false) (by simp) ?_).1
  · intro earlier p later split
    show (told (f p)).synchronous = true ↔ _
    rw [show (told (f p)).synchronous = _ from broadcast.asks p]
    exact all earlier p later split
  · intro earlier p before
    rw [broadcast.learns, Progress.synchronous_after, Bool.and_eq_true, before]
    simp [or_imp, forall_and, and_assoc]

theorem sums (starts : (progress state).Sums []) :
    (progress (sweep visit state members).result.2).Sums
      (((stops visit state members).map f).map told) := by
  have sums := sums_rounds progress (fun state member => broadcast.asks ⟨state, member⟩)
    (fun state member => broadcast.learns ⟨state, member⟩) state starts members
  rwa [rounds_eq_map_stops, ← List.map_map] at sums

/-- A broadcast ends up knowing the first member that took the request to be synchronous. -/
theorem taken (starts : (progress state).Sums []) :
    (progress (sweep visit state members).result.2).taken =
      if (progress state).synchronous then
        (((stops visit state members).map f).find? fun a => (told a).delivered).map fun a =>
          (told a).surface
      else none := by
  have taken := (broadcast.sums state members starts).taken
  have took : Visit.took ∘ told = fun a => (told a).synchronous && (told a).delivered := rfl
  rw [List.filter_map, took, (broadcast.offered state members).filter_took] at taken
  rw [← Option.head?_toList (o := Progress.taken _), ← taken]
  split <;> simp [Function.comp_def]

theorem failures (starts : (progress state).Sums [])
    (small : members.length < UInt32.size) :
    (progress (sweep visit state members).result.2).failures.toNat =
      ((stops visit state members).map f).countP fun a => (told a).failed := by
  have all := congrArg List.length (map_member_stops visit state members)
  have some := List.countP_le_length (p := fun a => (told a).failed)
    (l := (stops visit state members).map f)
  rw [(broadcast.sums state members starts).failures, List.countP_map]
  apply UInt32.toNat_ofNat_of_lt'
  simp only [List.length_map, List.length_reverse] at all some
  exact Nat.lt_of_le_of_lt some (all ▸ small)

end Learns

end Group

end Wallpaper
