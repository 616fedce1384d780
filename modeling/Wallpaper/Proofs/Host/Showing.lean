import Wallpaper.Proofs.Group.Offsets
import Wallpaper.Proofs.Host.Placement

/-! How a group is shown or hidden. The display is asked for its size once, after the layout it may
be asked for, and all members are refreshed for that size, the newest first. On the way in the
policy has its say about a member before its client is told; on the way out it is not asked. -/
namespace Wallpaper

open Simulation (Pane Policy Screen)

variable {σ δ π : Type}

namespace Stop

/-- The consultation about the member on the way in. -/
def consulted (p : Stop π σ) : Consulted π σ := ⟨p.state, p.member, false⟩

variable [Surface σ] [ScrollPolicy π σ] (size : Size) (visible : Bool) (p : Stop π σ)

/-- The member by the time its client is told. -/
def updated : σ := if visible then (p.consulted.answer size).result.surface else p.member

def shown : σ := Surface.notifyVisible visible (p.updated size visible)

def calls : List Call :=
  (if visible then p.consulted.asking size else []) ++
    [.visible (Surface.id (p.updated size visible)) visible]

def effects (header : Header) : List Effect :=
  (p.calls size visible).map .call ++ [.event ⟨header,
    .dispatch .visibility (Surface.id (p.shown size visible)) false .delivered⟩]

/-- The policy after these stops, if this was the policy before them. -/
def left (policy : π) (earlier : List (Stop π σ)) : π :=
  if visible then Consulted.left size policy (earlier.map consulted) else policy

theorem result_refreshVisit (header : Header) :
    (Group.refreshVisit header size visible none p.state p.member).result =
      (p.shown size visible,
        if visible then (p.consulted.answer size).result.policy else p.state) := by
  cases visible <;> rfl

theorem policy_refreshVisit {policy : π} {earlier : List (Stop π σ)} (header : Header)
    (before : p.state = left size visible policy earlier) :
    (Group.refreshVisit header size visible none p.state p.member).result.2 =
      left size visible policy (earlier ++ [p]) := by
  rw [result_refreshVisit]
  cases visible with
  | false => exact before
  | true => simp [left, Consulted.left_concat]

theorem emitted_refreshVisit (header : Header) :
    (Group.refreshVisit header size visible none p.state p.member).emitted =
      p.effects size visible header := by
  cases visible <;>
    simp [Group.refreshVisit, Group.ask, Group.report, Ask.update, Ask.notifyVisible, effects,
      calls, shown, updated, Consulted.asking, Consulted.answer, Consulted.changed, consulted]

end Stop

namespace Simulation.Pane

theorem result_update (pane : Pane) (p : Parallax) (display : Size) (synchronous : Bool) :
    let target := p.offset pane.size display
    let moves := !pane.scroll.equal target
    (ScrollPolicy.update p pane display synchronous).result =
      ⟨moves, p, { pane with scroll := if moves then target else pane.scroll }⟩ := by
  intro target moves
  rcases Parallax.update_cases p pane display synchronous with ⟨same, stays⟩ | ⟨other, scrolls⟩
  · have still : moves = false := congrArg (!·) same
    rw [still]
    exact congrArg Emits.result stays
  · have moved : moves = true := congrArg (!·) other
    rw [moved]
    exact congrArg Emits.result scrolls

/-- A pane that was shown or hidden, with its offset refreshed on the way in. -/
def refreshed (p : Parallax) (display : Size) (visible : Bool) (pane : Pane) : Pane :=
  let target := p.offset pane.size display
  { pane with
    visible
    drawn := pane.drawn && visible
    scroll := if visible && !pane.scroll.equal target then target else pane.scroll }

theorem result_refreshVisit (header : Header) (display : Size) (visible : Bool) (p : Parallax)
    (pane : Pane) : (Group.refreshVisit header display visible none p pane).result =
      (pane.refreshed p display visible, p) := by
  cases visible with
  | false => rfl
  | true => simp [Group.refreshVisit, Ask.update, Ask.notifyVisible, result_update, refreshed]

end Simulation.Pane

namespace Group

variable [Display δ]

/-- The one size that all members are refreshed for. -/
def laidOutSize (g : Group σ) (d : δ) (visible : Bool) : Size := Display.size (g.laidOut d visible)

/-- What comes of showing or hiding a group, if its members were visited like this. -/
structure Showings [Surface σ] [ScrollPolicy π σ] (g : Group σ) (d : δ) (policy : π)
    (visible : Bool) (after : Emits Effect (Refreshed σ δ π)) (stops : List (Stop π σ)) :
    Prop where
  members : stops.map Stop.member = g.members.reverse
  threaded : Throughout
    (fun earlier p => p.state = Stop.left (g.laidOutSize d visible) visible policy earlier) stops
  emitted : after.emitted =
    g.flipping visible ++ .call .size ::
      stops.flatMap (Stop.effects (g.laidOutSize d visible) visible · g.header) ++
      [.event ⟨g.header, .broadcast .visibility g.reportedCount none 0⟩]
  result : after.result =
    ⟨{ g with
        members := (stops.map (Stop.shown (g.laidOutSize d visible) visible)).reverse
        hidden := !visible
        seq := g.seq + 1 },
      g.laidOut d visible, Stop.left (g.laidOutSize d visible) visible policy stops⟩

theorem exists_showings [Surface σ] [ScrollPolicy π σ] (g : Group σ) (d : δ) (policy : π)
    (visible : Bool) :
    ∃ stops, g.Showings d policy visible (g.setVisible d policy visible) stops := by
  let size := g.laidOutSize d visible
  let visit := refreshVisit (σ := σ) (π := π) g.header size visible none
  obtain ⟨result, emitted⟩ := g.refresh_eq d policy visible none
  have effects : (sweep visit policy g.members).emitted =
      (stops visit policy g.members).flatMap (Stop.effects size visible · g.header) := by
    rw [emitted_sweep (f := fun p => p) policy g.members
      (Stop.emitted_refreshVisit size visible · g.header), List.map_id']
  have members : (sweep visit policy g.members).result.1 =
      ((stops visit policy g.members).map (Stop.shown size visible)).reverse := by
    rw [members_sweep (f := fun p => p) policy g.members
      fun p => congrArg Prod.fst (Stop.result_refreshVisit size visible p g.header), List.map_id']
  obtain ⟨threaded, last⟩ := throughout_stops visit policy g.members
    (fun earlier now => now = Stop.left size visible policy earlier)
    (by cases visible <;> rfl)
    fun _ p before => p.policy_refreshVisit size visible g.header before
  have counted : (g.setVisible d policy visible).result.group.reportedCount = g.reportedCount := by
    apply reportedCount_of_length
    rw [setVisible, result]
    exact length_sweep visit policy g.members
  refine ⟨stops visit policy g.members, ?_⟩
  constructor
  · exact map_member_stops visit policy g.members
  · exact threaded
  · rw [← effects, ← counted]
    exact emitted
  · rw [← members, ← last]
    exact result

theorem result_setVisible_parallax (g : Group Pane) (d : δ) (p : Parallax) (visible : Bool) :
    (g.setVisible d p visible).result =
      ⟨{ g with
          members := g.members.map (Pane.refreshed p (g.laidOutSize d visible) visible)
          hidden := !visible
          seq := g.seq + 1 },
        g.laidOut d visible, p⟩ := by
  obtain ⟨result, -⟩ := g.refresh_eq d p visible none
  rw [result_sweep_of_same (Pane.result_refreshVisit g.header _ visible p)] at result
  exact result

/-- On the way in every member's offset is refreshed before its client is told, for the size that
the display has once it is laid out; on the way out nothing but the clients is told. -/
theorem shows_members [ScrollPolicy π Pane] (g : Group Pane) (d : δ) (policy : π)
    (visible : Bool) :
    let after := g.setVisible d policy visible
    (∃ stops, g.Showings d policy visible after stops) ∧
      ([SteadyPolicy π Pane] → after.result.group.ids = g.ids) ∧
      ∀ p : Parallax, (g.setVisible d p visible).result =
        ⟨{ g with
            members := g.members.map (Pane.refreshed p (g.laidOutSize d visible) visible)
            hidden := !visible
            seq := g.seq + 1 },
          g.laidOut d visible, p⟩ := by
  refine ⟨g.exists_showings d policy visible, ?_, (g.result_setVisible_parallax d · visible)⟩
  intro steady
  obtain ⟨result, -⟩ := g.refresh_eq d policy visible none
  rw [setVisible, result]
  exact (isVisit_refreshVisit g.header _ visible none).ids_sweep policy g.members

/-- The display is turned by the layout that the group asks for. -/
theorem shows_members_turned :
    let g : Group Pane :=
      { display := ⟨0⟩, token := ⟨1⟩, hidden := true, exiting := false, seq := 4,
        members := [{ id := ⟨1⟩, size := ⟨2160, 1920⟩ }, { id := ⟨2⟩, drawn := true }] }
    let screen : Screen := ⟨⟨1080, 1920⟩, some ⟨1920, 1080⟩, 0, []⟩
    let p := Parallax.ofConfig .centered
    let after := g.setVisible screen (Policy.parallax p) true
    (∃ stops, g.Showings screen (Policy.parallax p) true after stops) ∧
      after.result.group.ids = [⟨1⟩, ⟨2⟩] ∧
      (g.setVisible screen p true).result.group.members =
        g.members.map (Pane.refreshed p ⟨1920, 1080⟩ true) := by
  intro g screen p after
  have turned : g.laidOutSize screen true = ⟨1920, 1080⟩ := by decide +kernel
  obtain ⟨showings, ids, members⟩ := g.shows_members screen (Policy.parallax p) true
  exact ⟨showings, ids, turned ▸ congrArg (·.group.members) (members p)⟩

end Group

end Wallpaper
