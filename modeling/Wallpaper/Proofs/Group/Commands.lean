import Wallpaper.Proofs.Group.Stops

/-! How a command goes round. Every client gets it, whatever the clients before it have answered,
and a group that asks for an acknowledgement asks one client after the other until one accepts. -/
namespace Wallpaper

open Simulation (Pane)

variable {σ : Type}

/-- A member that a command comes to, and whether its client is to acknowledge it. -/
structure Asked (σ : Type) where
  member : σ
  synchronous : Bool

namespace Asked

variable [Surface σ] (command : Command) (a : Asked σ)

def error? : Option DeliveryError := (Surface.dispatch command a.synchronous a.member).1

def after : σ := (Surface.dispatch command a.synchronous a.member).2

def accepts : Bool := (a.error? command).isNone

def visit : Visit where
  surface := Surface.id a.member
  synchronous := a.synchronous
  outcome := match a.error? command with
    | none => .delivered
    | some error => .failed error

/-- One call to the client, and one event about its answer. -/
def effects (header : Header) : List Effect :=
  [.call (.dispatch (Surface.id a.member) command a.synchronous (a.error? command)),
    .event ⟨header, (a.visit command).detail .command⟩]

theorem delivered_visit : (fun a : Asked σ => (a.visit command).delivered) = accepts command := by
  funext a
  cases answer : a.error? command <;> simp [visit, accepts, answer, Visit.delivered]

theorem failed_visit :
    (fun a : Asked σ => (a.visit command).failed) = fun a => !a.accepts command := by
  funext a
  cases answer : a.error? command <;> simp [visit, accepts, answer, Visit.failed]

def ofStop (p : Stop Progress σ) : Asked σ := ⟨p.member, p.state.synchronous⟩

variable (p : Stop Progress σ) (header : Header)

theorem result_commandVisit :
    (Group.commandVisit header command p.state p.member).result.1 = (ofStop p).after command := by
  unfold Group.commandVisit
  simp only [Emits.result_bind, Group.result_ask]
  split <;> rfl

variable [SteadySurface σ]

theorem emitted_commandVisit :
    (Group.commandVisit header command p.state p.member).emitted =
      (ofStop p).effects command header := by
  unfold Group.commandVisit
  cases answer : (Surface.dispatch command p.state.synchronous p.member).1 <;>
    simp [answer, Group.ask, Ask.dispatch, Group.report, effects, ofStop, error?, visit,
      Visit.detail]

theorem learns_commandVisit : Group.Learns (Group.commandVisit (σ := σ) header command)
    (fun p => p) (visit command ∘ ofStop) where
  asks _ := rfl
  learns p := Group.learns_commandVisit header command p.state p.member

end Asked

namespace Group

variable [Surface σ]

/-- What comes of a command, if its members were asked like this. -/
structure Commands (g : Group σ) (command : Command) (synchronous : Bool)
    (sent : Emits Effect (Group σ)) (asked : List (Asked σ)) : Prop where
  members : asked.map Asked.member = g.members.reverse
  offered : Offered synchronous Asked.synchronous (Asked.accepts command) asked
  acknowledged : (asked.filter fun a => a.synchronous && a.accepts command).length ≤ 1
  emitted : ∃ count failures : UInt32,
    sent.emitted = asked.flatMap (Asked.effects command · g.header) ++
      [.event ⟨g.header, .broadcast .command count
        (if synchronous then (asked.find? (Asked.accepts command)).map (Surface.id ·.member)
        else none) failures⟩] ∧
      count.toNat = g.members.length ∧ failures.toNat = asked.countP (!·.accepts command)
  result : sent.result =
    { g with members := (asked.map (Asked.after command)).reverse, seq := g.seq + 1 }
  ids : sent.result.ids = g.ids

variable [SteadySurface σ]

/-- A command is dispatched once to every member, and the first member that accepts it is the only
one that is waited for with success. -/
theorem exists_commands (g : Group σ) (command : Command) (synchronous : Bool)
    (small : g.members.length < UInt32.size) :
    ∃ asked, g.Commands command synchronous (g.send command synchronous) asked := by
  let start := Progress.start synchronous
  let swept := sweep (commandVisit g.header command) start g.members
  let asked := (stops (commandVisit g.header command) start g.members).map Asked.ofStop
  have broadcast := Asked.learns_commandVisit (σ := σ) command g.header
  have starts : start.Sums [] := Progress.sums_start synchronous
  have offered : Offered synchronous Asked.synchronous (Asked.accepts command) asked := by
    rw [← Asked.delivered_visit]
    exact broadcast.offered start g.members
  have taken : swept.result.2.taken = if synchronous then
      (asked.find? (Asked.accepts command)).map (Surface.id ·.member) else none := by
    rw [← Asked.delivered_visit]
    exact broadcast.taken start g.members starts
  have failures : swept.result.2.failures.toNat = asked.countP (!·.accepts command) := by
    rw [← Asked.failed_visit]
    exact broadcast.failures start g.members starts small
  have effects : swept.emitted = asked.flatMap (Asked.effects command · g.header) :=
    emitted_sweep start g.members (Asked.emitted_commandVisit command · g.header)
  have members : swept.result.1 = (asked.map (Asked.after command)).reverse :=
    members_sweep start g.members (Asked.result_commandVisit command · g.header)
  have visited : asked.map Asked.member = g.members.reverse := by
    rw [List.map_map]
    exact map_member_stops _ start g.members
  have counted : (g.send command synchronous).result.reportedCount = g.reportedCount :=
    reportedCount_of_length (length_sweep _ start g.members)
  refine ⟨asked, ?_⟩
  constructor
  · exact visited
  · exact offered
  · -- Whoever is left of the filter is the first that accepts.
    rw [offered.filter_took]
    split
    · cases asked.find? (Asked.accepts command) <;> simp
    · simp
  · refine ⟨g.reportedCount, swept.result.2.failures, ?_, toNat_reportedCount_of_lt small, failures⟩
    rw [← effects, ← taken, ← counted]
    simp [send, report, swept, start]
  · simp [send, ← members, swept, start]
  · exact (isVisit_commandVisit g.header command).ids_sweep start g.members

/-- The newest member is detached, and the next one only takes commands that need no answer. -/
theorem exists_commands_mixed :
    let g : Group Pane :=
      { display := ⟨0⟩, token := ⟨1⟩, hidden := false, exiting := false, seq := 4,
        members := [{ id := ⟨1⟩ }, { id := ⟨2⟩ }, { id := ⟨3⟩, client := .failsSynchronous },
          { id := ⟨4⟩, client := .detached }] }
    let tap : Command := ⟨"tap", 540, 960, 0, none⟩
    let sent := g.send tap true
    g.members.length < UInt32.size ∧
      sent.emitted.getLast? =
        some (.event ⟨g.header, .broadcast .command 4 (some ⟨2⟩) 2⟩) ∧
      ∃ asked, g.Commands tap true sent asked := by
  intro g tap sent
  have small : g.members.length < UInt32.size := by decide
  exact ⟨small, by decide +kernel, g.exists_commands tap true small⟩

end Group

end Wallpaper
