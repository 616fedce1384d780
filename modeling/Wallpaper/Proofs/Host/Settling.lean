import Wallpaper.Proofs.Host.Showing
import Wallpaper.Proofs.Sink.Delivery

/-! How parallax settles. One update of the offsets brings every member to where it belongs,
whatever stands beside it and whoever is waited for. A second one finds nothing to do, except where
the offset is no number: that does not equal itself, so it is pushed again and again. -/
namespace Wallpaper

open Simulation (Pane)

variable {σ δ s α β : Type}

/-- What is told to each, where only the first may be told of the request. -/
def handOver (told : Bool → α → List β) (requested : Bool) : List α → List β
  | [] => []
  | first :: others => told requested first ++ others.flatMap (told false)

theorem handOver_concat (told : Bool → α → List β) (requested : Bool) (list : List α) (a : α) :
    handOver told requested (list ++ [a]) =
      handOver told requested list ++ told (requested && list.isEmpty) a := by
  cases list <;> simp [handOver]

theorem handOver_map (told : Bool → α → List β) (requested : Bool) (f : σ → α) (list : List σ) :
    handOver told requested (list.map f) =
      handOver (fun asked a => told asked (f a)) requested list := by
  cases list <;> simp [handOver, List.flatMap_map]

/-- Calls to surfaces and displays, unlike the question to the policy itself. -/
def Call.touches : Call → Bool
  | .policy .. => false
  | _ => true

/-- The client is to acknowledge a new offset. -/
def Call.awaits : Call → Bool
  | .scroll _ _ synchronous => synchronous
  | _ => false

theorem Call.filter_awaits (calls : List Call) :
    (calls.filter touches).filter awaits = calls.filter awaits := by
  rw [List.filter_filter]
  refine List.filter_congr fun call _ => ?_
  cases call <;> simp [touches, awaits]

namespace Simulation.Pane

section Placed

variable (p : Parallax) (display : Size) (pane : Pane)

/-- The offset that the surface should have. -/
def target : Vec := p.offset pane.size display

def astray : Bool := !pane.scroll.equal (pane.target p display)

/-- Where the surface is to stand with this offset. -/
def destination : Point := pane.frame.shift (pane.target p display)

def settled : Pane :=
  if pane.astray p display then
    { pane with scroll := pane.target p display, shown := pane.destination p display }
  else pane

/-- The offset that the surface should have does not equal itself. -/
def restless : Bool := !(pane.target p display).equal (pane.target p display)

/-- What a surface is called with when its offset changes. -/
def pushing (synchronous : Bool) (pane : Pane) : List Call :=
  [.scroll pane.id (pane.target p display) synchronous,
    .shown pane.id (pane.destination p display), .move pane.id (pane.destination p display)]

def moving (header : Header) (synchronous : Bool) : List Effect :=
  [.call (.scroll pane.id (pane.target p display) synchronous),
    .call (.policy pane.id display synchronous true),
    .call (.shown pane.id (pane.destination p display)),
    .call (.move pane.id (pane.destination p display)),
    .event ⟨header, .dispatch .offsets pane.id synchronous .delivered⟩]

def resting (header : Header) (synchronous : Bool) : List Effect :=
  [.call (.policy pane.id display synchronous false),
    .event ⟨header, .dispatch .offsets pane.id synchronous .unchanged⟩]

end Placed

variable {p : Parallax} {display : Size} {pane : Pane}

theorem settled_of_astray (lost : pane.astray p display = true) : pane.settled p display =
    { pane with scroll := pane.target p display, shown := pane.destination p display } :=
  if_pos lost

theorem settled_of_placed (placed : pane.astray p display = false) :
    pane.settled p display = pane :=
  if_neg (by simp [placed])

theorem settled_settled :
    (pane.settled p display).settled p display = pane.settled p display := by
  cases lost : pane.astray p display with
  | false => rw [settled_of_placed lost, settled_of_placed lost]
  | true =>
    rw [settled_of_astray lost, settled]
    split <;> rfl

/-- A surface that was brought to its place is astray again if its offset does not equal itself. -/
theorem astray_settled : (pane.settled p display).astray p display =
    (pane.restless p display && pane.astray p display) := by
  cases lost : pane.astray p display with
  | false => rw [settled_of_placed lost, lost, Bool.and_false]
  | true =>
    rw [settled_of_astray lost, Bool.and_true]
    rfl

theorem update_of_astray (lost : pane.astray p display = true) (synchronous : Bool) :
    ScrollPolicy.update p pane display synchronous =
      ⟨⟨true, p, { pane with scroll := pane.target p display }⟩,
        [.scroll pane.id (pane.target p display) synchronous]⟩ := by
  rcases p.update_cases pane display synchronous with ⟨same, -⟩ | ⟨-, scrolls⟩
  · have placed : pane.astray p display = false := congrArg (!·) same
    exact absurd (lost.symm.trans placed) (by decide)
  · exact scrolls

theorem update_of_placed (placed : pane.astray p display = false) (synchronous : Bool) :
    ScrollPolicy.update p pane display synchronous = ⟨⟨false, p, pane⟩, []⟩ := by
  rcases p.update_cases pane display synchronous with ⟨-, stays⟩ | ⟨other, -⟩
  · exact stays
  · have lost : pane.astray p display = true := congrArg (!·) other
    exact absurd (lost.symm.trans placed) (by decide)

theorem pushing_settled (synchronous : Bool) :
    pushing p display synchronous (pane.settled p display) =
      pushing p display synchronous pane := by
  unfold settled
  split <;> rfl

theorem awaits_handOver (requested : Bool) (panes : List Pane) :
    (handOver (pushing p display) requested panes).filter Call.awaits =
      if requested then
        (panes.head?.map fun pane => .scroll pane.id (pane.target p display) true).toList
      else [] := by
  cases panes with
  | nil => simp [handOver]
  | cons first others =>
    have unasked : (others.flatMap (pushing p display false)).filter Call.awaits = [] := by
      simp [List.filter_flatMap, pushing, Call.awaits]
    rw [handOver, List.filter_append, unasked]
    cases requested <;> rfl

end Simulation.Pane

namespace Group

open Simulation.Pane

section Visits

variable {p : Parallax} {display : Size} {pane : Pane} (header : Header) (progress : Progress)

theorem offsetVisit_of_astray (lost : pane.astray p display = true) :
    offsetVisit header display (p, progress) pane =
      ⟨(pane.settled p display, p, progress.accept pane.id),
        pane.moving p display header progress.synchronous⟩ := by
  have asked : ask (Ask.update p pane display progress.synchronous) =
      ⟨⟨true, p, { pane with scroll := pane.target p display }⟩,
        [.call (.scroll pane.id (pane.target p display) progress.synchronous),
          .call (.policy pane.id display progress.synchronous true)]⟩ := by
    rw [Ask.update, update_of_astray lost]
    rfl
  rw [settled_of_astray lost, offsetVisit, asked]
  rfl

theorem offsetVisit_of_placed (placed : pane.astray p display = false) :
    offsetVisit header display (p, progress) pane =
      ⟨(pane, p, progress), pane.resting display header progress.synchronous⟩ := by
  have asked : ask (Ask.update p pane display progress.synchronous) =
      ⟨⟨false, p, pane⟩, [.call (.policy pane.id display progress.synchronous false)]⟩ := by
    rw [Ask.update, update_of_placed placed]
    rfl
  rw [offsetVisit, asked]
  rfl

end Visits

/-- What an update of the offsets makes of members, oldest first, and whom it calls meanwhile. -/
theorem sweep_offsetVisit (header : Header) (p : Parallax) (display : Size) (progress : Progress)
    (members : List Pane) :
    let swept := sweep (offsetVisit header display) (p, progress) members
    let lost := members.reverse.filter (Pane.astray p display)
    (∃ after : Progress, swept.result = (members.map (Pane.settled p display), p, after) ∧
      after.synchronous = (progress.synchronous && lost.isEmpty)) ∧
    swept.calls.filter Call.touches =
      handOver (Pane.pushing p display) progress.synchronous lost := by
  intro swept lost
  induction members with
  | nil => exact ⟨⟨progress, by simp [swept, lost, sweep]⟩, rfl⟩
  | cons pane newer ih =>
    obtain ⟨⟨after, result, asked⟩, calls⟩ := ih
    cases away : pane.astray p display with
    | false =>
      have visited := offsetVisit_of_placed header after away
      have untouched : (offsetVisit header display (p, after) pane).calls.filter Call.touches =
          [] := by
        rw [visited]
        rfl
      refine ⟨⟨after, ?_, ?_⟩, ?_⟩
      · simp [swept, sweep, result, visited, settled_of_placed away]
      · simpa [lost, away] using asked
      · rw [← List.append_nil (handOver _ _ _), ← untouched]
        simp [swept, lost, sweep, result, calls, away]
    | true =>
      have visited := offsetVisit_of_astray header after away
      have pushed : (offsetVisit header display (p, after) pane).calls.filter Call.touches =
          Pane.pushing p display after.synchronous pane := by
        rw [visited]
        rfl
      refine ⟨⟨after.accept pane.id, ?_, ?_⟩, ?_⟩
      · simp [swept, sweep, result, visited]
      · simp [lost, away, Progress.accept]
      · simp [swept, lost, sweep, result, pushed, calls, away, handOver_concat, asked]

/-- A member that is where it belongs is asked about and left alone. -/
theorem sweep_of_still {visit : s → σ → Emits Effect (σ × s)} {state : s}
    {told : σ → List Effect} {members : List σ}
    (still : ∀ member ∈ members, visit state member = ⟨(member, state), told member⟩) :
    sweep visit state members = ⟨(members, state), members.reverse.flatMap told⟩ := by
  induction members with
  | nil => rfl
  | cons member newer ih =>
    obtain ⟨here, later⟩ := List.forall_mem_cons.1 still
    apply Emits.ext <;> simp [sweep, ih later, here]

theorem reposition_still (g : Group Pane) (p : Parallax) (display : Size) (synchronous : Bool)
    (placed : ∀ pane ∈ g.members, pane.astray p display = false) :
    g.reposition p display synchronous = ⟨({ g with seq := g.seq + 1 }, p),
      g.members.reverse.flatMap (Pane.resting display · g.header synchronous) ++
        [.event ⟨g.header, .broadcast .offsets g.reportedCount none 0⟩]⟩ := by
  have still : ∀ pane ∈ g.members, offsetVisit g.header display (p, .start synchronous) pane =
      ⟨(pane, p, .start synchronous), pane.resting display g.header synchronous⟩ :=
    fun pane here => offsetVisit_of_placed g.header _ (placed pane here)
  rw [reposition, sweep_of_still still]
  rfl

theorem state_sweep {visit : s → σ → Emits Effect (σ × s)} {state : s}
    (same : ∀ member, (visit state member).result.2 = state) (members : List σ) :
    (sweep visit state members).result.2 = state := by
  induction members with
  | nil => rfl
  | cons member newer ih => simp [sweep, ih, same]

theorem policy_reposition (g : Group Pane) (p : Parallax) (display : Size) (synchronous : Bool) :
    (g.reposition p display synchronous).result.2 = p := by
  obtain ⟨⟨after, result, -⟩, -⟩ :=
    sweep_offsetVisit g.header p display (.start synchronous) g.members
  simp [reposition, result]

theorem policy_refresh [Display δ] (g : Group Pane) (d : δ) (p : Parallax) (visible : Bool)
    (adjustment : Option Int32) : (g.refresh d p visible adjustment).result.policy = p := by
  rw [(g.refresh_eq d p visible adjustment).1]
  apply state_sweep
  intro pane
  cases visible <;> cases adjustment <;> simp [refreshVisit, Ask.update, Pane.result_update]

/-- No operation of a group changes a parallax. -/
theorem policy_serve [Display δ] (g : Group Pane) (d : δ) (p : Parallax) (request : Request Pane) :
    (g.serve d p request).result.policy = p := by
  cases request with
  | reposition size synchronous => exact g.policy_reposition p size synchronous
  | setVisible visible => exact g.policy_refresh d p visible none
  | restack visible adjustment => exact g.policy_refresh d p visible (some adjustment)
  | _ => rfl

/-- What comes of an update of the offsets, if these are the members that are not where they belong,
the newest first. -/
structure Settles (g : Group Pane) (p : Parallax) (display : Size) (synchronous : Bool)
    (lost : List Pane) (moved : Emits Effect (Group Pane × Parallax)) : Prop where
  result : moved.result =
    ({ g with members := g.members.map (Pane.settled p display), seq := g.seq + 1 }, p)
  touched : moved.calls.filter Call.touches = handOver (Pane.pushing p display) synchronous lost
  awaited : moved.calls.filter Call.awaits =
    if synchronous then
      (lost.head?.map fun pane => .scroll pane.id (pane.target p display) true).toList
    else []

theorem settles_of_touched {g : Group Pane} {p : Parallax} {display : Size} {synchronous : Bool}
    {lost : List Pane} {moved : Emits Effect (Group Pane × Parallax)}
    (result : moved.result =
      ({ g with members := g.members.map (Pane.settled p display), seq := g.seq + 1 }, p))
    (touched : moved.calls.filter Call.touches =
      handOver (Pane.pushing p display) synchronous lost) :
    g.Settles p display synchronous lost moved := by
  refine ⟨result, touched, ?_⟩
  rw [← Call.filter_awaits, touched, Pane.awaits_handOver]

theorem settles_reposition (g : Group Pane) (p : Parallax) (display : Size) (synchronous : Bool) :
    g.Settles p display synchronous (g.members.reverse.filter (Pane.astray p display))
      (g.reposition p display synchronous) := by
  obtain ⟨⟨after, result, -⟩, calls⟩ :=
    sweep_offsetVisit g.header p display (.start synchronous) g.members
  apply settles_of_touched
  · simp [reposition, result]
  · simpa [reposition, Progress.start] using calls

/-- One update brings every member to its place, and at most one client is waited for. A second one
finds astray just those whose offset is no number. -/
theorem settles_at_once (g : Group Pane) (p : Parallax) (display : Size) (synchronous : Bool) :
    let moved := g.reposition p display synchronous
    let now := moved.result.1
    let lost := g.members.reverse.filter (Pane.astray p display)
    let restless := lost.filter (Pane.restless p display)
    g.Settles p display synchronous lost moved ∧
    (∀ again,
      let second := now.reposition p display again
      now.Settles p display again restless second ∧
        second.result = ({ now with seq := now.seq + 1 }, p) ∧
        (restless = [] → second.emitted =
          now.members.reverse.flatMap (Pane.resting display · now.header again) ++
            [.event ⟨now.header, .broadcast .offsets now.reportedCount none 0⟩])) ∧
    ∀ {δ : Type} [Display δ] (d : δ) (request : Request Pane),
      (g.serve d p request).result.policy = p := by
  intro moved now lost restless
  have settles := g.settles_reposition p display synchronous
  have members : now.members = g.members.map (Pane.settled p display) := by
    simp only [now, moved, settles.result]
  have lost_again : now.members.reverse.filter (Pane.astray p display) =
      restless.map (Pane.settled p display) := by
    have lost_still : Pane.astray p display ∘ Pane.settled p display =
        fun pane => pane.restless p display && pane.astray p display := by
      funext pane
      exact Pane.astray_settled
    rw [members, ← List.map_reverse, List.filter_map, lost_still, ← List.filter_filter]
  refine ⟨settles, fun again => ?_, fun d request => g.policy_serve d p request⟩
  intro second
  have settles_again := now.settles_reposition p display again
  refine ⟨settles_of_touched settles_again.result ?_, ?_, fun all_rest => ?_⟩
  · rw [settles_again.touched, lost_again, handOver_map]
    simp only [Pane.pushing_settled]
  · have settled_already : now.members.map (Pane.settled p display) = now.members := by
      rw [members, List.map_map]
      exact List.map_congr_left fun pane _ => Pane.settled_settled
    rw [settles_again.result, settled_already]
  · have placed : ∀ pane ∈ now.members, pane.astray p display = false := by
      rw [all_rest, List.map_nil, List.filter_eq_nil_iff] at lost_again
      simpa using lost_again
    exact congrArg Emits.emitted (now.reposition_still p display again placed)

/-- A wallpaper without an end has no right edge to be scrolled from. -/
theorem settles_at_once_endless :
    let g : Group Pane :=
      { display := ⟨0⟩, token := ⟨1⟩, hidden := false, exiting := false, seq := 4,
        members := [{ id := ⟨1⟩, size := ⟨2160, 1920⟩, scroll := ⟨5, 0⟩ },
          { id := ⟨2⟩, size := ⟨.infinity false, 1920⟩ }, { id := ⟨3⟩ }] }
    let p := Parallax.ofConfig .pinned
    let moved := g.reposition p ⟨1080, 1920⟩ true
    moved.calls.filter Call.awaits = [.scroll ⟨2⟩ ⟨.nan, 0⟩ true] ∧
      ∀ again, (moved.result.1.reposition p ⟨1080, 1920⟩ again).calls.filter Call.touches =
        [.scroll ⟨2⟩ ⟨.nan, 0⟩ again, .shown ⟨2⟩ ⟨.nan, 0⟩, .move ⟨2⟩ ⟨.nan, 0⟩] := by
  intro g p moved
  obtain ⟨first, more, -⟩ := g.settles_at_once p ⟨1080, 1920⟩ true
  refine ⟨first.awaited.trans (by decide +kernel), fun again => ?_⟩
  exact (more again).1.touched.trans (by cases again <;> decide +kernel)

end Group

end Wallpaper
