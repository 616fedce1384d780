import Mathlib.Data.List.Induction
import Wallpaper.Proofs.Host.Run

/-! The life of one group from its creation. What happens to the display and to the policy between
two requests is left open: each turn brings both along as they are by then. Handles that came back
are with their owner, who may hand them in again. -/
namespace Wallpaper

variable {σ δ π : Type}

inductive Deed (σ : Type) where
  | ask (request : Request σ)
  /-- Hands in a handle that came back, by its place among those. -/
  | readd (place : Nat)

structure Turn (σ δ π : Type) where
  display : δ
  policy : π
  deed : Deed σ

/-- A request, and the group as it was when the request was made. -/
structure Moment (σ : Type) where
  group : Group σ
  request : Request σ

structure Life (σ : Type) where
  group : Group σ
  back : List σ

namespace Life

/-- The request that a deed makes, and the handles that stay with the owner meanwhile. -/
def resolve (life : Life σ) : Deed σ → Option (Request σ × List σ)
  | .ask request => some (request, life.back)
  | .readd place => life.back[place]?.map fun handle => (.add handle, life.back.eraseIdx place)

variable [Surface σ] [Display δ] [ScrollPolicy π σ]

def turn (life : Life σ) (t : Turn σ δ π) : Emits Effect (Life σ) :=
  match life.resolve t.deed with
  | none => pure life
  | some (request, kept) => do
    let served ← life.group.serve t.display t.policy request
    return ⟨served.group, kept ++ served.returned⟩

def run (life : Life σ) : List (Turn σ δ π) → Emits Effect (Life σ)
  | [] => pure life
  | t :: rest => do
    let life ← life.turn t
    life.run rest

def start (display : DisplayId) (token : TokenId) (d : δ) : Emits Effect (Life σ) := do
  let (group, _) ← Group.create display token d
  return ⟨group, []⟩

def lived (display : DisplayId) (token : TokenId) (d : δ) (turns : List (Turn σ δ π)) :
    Emits Effect (Life σ) := do
  let life ← start display token d
  life.run turns

def moment? (life : Life σ) (t : Turn σ δ π) : Option (Moment σ) :=
  (life.resolve t.deed).map fun p => ⟨life.group, p.1⟩

def moments (life : Life σ) : List (Turn σ δ π) → List (Moment σ)
  | [] => []
  | t :: rest => (life.moment? t).toList ++ (life.turn t).result.moments rest

theorem run_append (life : Life σ) (earlier later : List (Turn σ δ π)) :
    life.run (earlier ++ later) = life.run earlier >>= (·.run later) := by
  induction earlier generalizing life with
  | nil => simp [run]
  | cons t rest ih => simp [run, ih]

theorem moments_append (life : Life σ) (earlier later : List (Turn σ δ π)) :
    life.moments (earlier ++ later) =
      life.moments earlier ++ (life.run earlier).result.moments later := by
  induction earlier generalizing life with
  | nil => simp [moments, run]
  | cons t rest ih => simp [moments, run, ih]

theorem run_concat (life : Life σ) (earlier : List (Turn σ δ π)) (t : Turn σ δ π) :
    life.run (earlier ++ [t]) = life.run earlier >>= (·.turn t) := by
  simp [run_append, run]

theorem moments_concat (life : Life σ) (earlier : List (Turn σ δ π)) (t : Turn σ δ π) :
    life.moments (earlier ++ [t]) =
      life.moments earlier ++ ((life.run earlier).result.moment? t).toList := by
  simp [moments_append, moments]

theorem length_moments (life : Life σ) (turns : List (Turn σ δ π)) :
    (life.moments turns).length ≤ turns.length := by
  induction turns generalizing life with
  | nil => simp [moments]
  | cons t rest ih =>
    have later := ih (life.turn t).result
    have one : (life.moment? t).toList.length ≤ 1 := by cases life.moment? t <;> simp
    simp only [moments, List.length_append, List.length_cons]
    omega

/-- What holds of a group at first, and is kept by every request that was made, holds after the
whole run. -/
theorem run_induction {p : Moment σ → Prop} (life : Life σ)
    (holds : List (Moment σ) → List Event → Group σ → Prop)
    (first : holds [] [] life.group)
    (next : ∀ moments events g request (display : δ) (policy : π), holds moments events g →
      p ⟨g, request⟩ → holds (moments ++ [⟨g, request⟩])
        (events ++ (g.serve display policy request).events)
        (g.serve display policy request).result.group)
    (turns : List (Turn σ δ π)) (all : ∀ m ∈ life.moments turns, p m) :
    holds (life.moments turns) (life.run turns).events (life.run turns).result.group := by
  induction turns using List.reverseRecOn with
  | nil => exact first
  | append_singleton earlier t ih =>
    rw [moments_concat] at all ⊢
    have before := ih fun m mem => all m (List.mem_append_left _ mem)
    rw [run_concat, Emits.events_bind, Emits.result_bind]
    have asked := fun m mem => all m (List.mem_append_right _ mem)
    generalize (life.run earlier).result = now at before asked ⊢
    cases resolved : now.resolve t.deed with
    | none => simpa [turn, moment?, resolved] using before
    | some made =>
      have served := next _ _ now.group made.1 t.display t.policy before
        (asked _ (by simp [moment?, resolved]))
      simpa [turn, moment?, resolved] using served

theorem key_turn (life : Life σ) (t : Turn σ δ π) :
    (life.turn t).result.group.key = life.group.key := by
  unfold turn
  split
  · rfl
  · exact life.group.key_serve t.display t.policy _

theorem key_moments (life : Life σ) (turns : List (Turn σ δ π)) :
    ∀ m ∈ life.moments turns, m.group.key = life.group.key := by
  induction turns generalizing life with
  | nil => simp [moments]
  | cons t rest ih =>
    intro m mem
    rcases List.mem_append.1 mem with now | later
    · obtain ⟨p, -, rfl⟩ := Option.map_eq_some_iff.1 (Option.mem_toList.1 now)
      rfl
    · rw [ih _ m later, life.key_turn t]

end Life

end Wallpaper
