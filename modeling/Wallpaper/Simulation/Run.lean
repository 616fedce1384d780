import Wallpaper.Simulation.Script
import Wallpaper.Sink.Outlet

/-! Runs of scripts with tracing. The calls of a step go to its log as they are; its events go to
the fan that the step names, and what that shows of them stands in the same log. -/
namespace Wallpaper.Simulation

structure Step where
  group : Nat
  action : Action
  /-- The fan that takes the events, by its place on the stage. Without one they are dropped. -/
  fan : Option Nat

inductive LogEntry where
  | call (call : Call)
  | seen (sighting : Sighting)
deriving DecidableEq

/-- Plays what a step did: calls into the log, events through the outlet. -/
def play (outlet : Outlet) : List Effect → Emits LogEntry Outlet
  | [] => pure outlet
  | .call call :: rest => do
    Emits.emit (.call call)
    play outlet rest
  | .event event :: rest => do
    let outlet ← (outlet.deliver event).relabel LogEntry.seen
    play outlet rest

structure Stage where
  world : World
  fans : List (Fan Receiver)

structure Report where
  answer : Answer
  log : List LogEntry
  stage : Stage

namespace Stage

/-- The outlet into the fan at a place; it is closed if there is none. -/
def outlet (stage : Stage) (fan : Option Nat) : Outlet := ⟨fan.bind (stage.fans[·]?)⟩

def returned (fans : List (Fan Receiver)) (place : Option Nat) (outlet : Outlet) :
    List (Fan Receiver) :=
  match place, outlet.fan? with
  | some place, some fan => fans.set place fan
  | _, _ => fans

def step (stage : Stage) (s : Step) : Report :=
  let acted := stage.world.act s.group s.action
  let played := play (stage.outlet s.fan) acted.emitted
  { answer := acted.result.1
    log := played.emitted
    stage := ⟨acted.result.2, returned stage.fans s.fan played.result⟩ }

def run (stage : Stage) : List Step → List Report
  | [] => []
  | s :: rest =>
    let report := stage.step s
    report :: report.stage.run rest

end Stage

end Wallpaper.Simulation
