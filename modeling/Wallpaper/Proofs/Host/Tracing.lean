import Wallpaper.Proofs.Host.Run
import Wallpaper.Proofs.Sink.Delivery

/-! Tracing. Each act of a run may name a fan that takes the events. What the groups do, and what
they answer, is the same whatever the fans are; and a fan takes just those events of the whole run
that belong to the acts that name it. -/
namespace Wallpaper

open Simulation (LogEntry play)

variable {σ δ π ω ι α β : Type}

/-- An act, and the place of the fan that takes its events. Without a fan there they are dropped. -/
structure Cue (ι : Type) where
  act : ι
  fan : Option Nat

/-- What came of a cue: the answer to the act, what could be seen meanwhile, and what there is
afterwards. -/
structure Beat (α ω : Type) where
  answer : α
  log : List LogEntry
  world : ω
  fans : List (Fan Receiver)

namespace Beat

def calls (b : Beat α ω) : List Call := b.log.filterMap LogEntry.call?

def sightings (b : Beat α ω) : List Sighting := b.log.filterMap LogEntry.seen?

def events (b : Beat α ω) : List Event := b.sightings.map Sighting.event

def bare (b : Beat α ω) : α × List Call × ω := (b.answer, b.calls, b.world)

def fansAfter (fans : List (Fan Receiver)) (beats : List (Beat α ω)) : List (Fan Receiver) :=
  (beats.getLast?.map Beat.fans).getD fans

/-- What there is to see of a run at the cues that name the fan at this place. -/
def during (see : Beat α ω → List β) (place : Nat) (cues : List (Cue ι))
    (beats : List (Beat α ω)) : List β :=
  (cues.zip beats).flatMap fun p => if p.1.fan = some place then see p.2 else []

theorem fansAfter_cons (fans : List (Fan Receiver)) (b : Beat α ω) (rest : List (Beat α ω)) :
    fansAfter fans (b :: rest) = fansAfter b.fans rest := by
  simp [fansAfter, List.getLast?_cons, Option.getD_map]

theorem during_cons (see : Beat α ω → List β) (place : Nat) (cue : Cue ι) (rest : List (Cue ι))
    (b : Beat α ω) (beats : List (Beat α ω)) :
    during see place (cue :: rest) (b :: beats) =
      (if cue.fan = some place then see b else []) ++ during see place rest beats := by
  simp [during]

end Beat

section Performing

variable (act : ω → ι → Emits Effect (α × ω))

def beat (world : ω) (fans : List (Fan Receiver)) (cue : Cue ι) : Beat α ω :=
  let acted := act world cue.act
  let played := play ⟨cue.fan.bind (fans[·]?)⟩ acted.emitted
  { answer := acted.result.1
    log := played.emitted
    world := acted.result.2
    fans := Simulation.Stage.returned fans cue.fan played.result }

def perform (world : ω) (fans : List (Fan Receiver)) : List (Cue ι) → List (Beat α ω)
  | [] => []
  | cue :: rest =>
    let b := beat act world fans cue
    b :: perform b.world b.fans rest

/-- A run with every act traced by one observer. -/
def performSeen (world : ω) (name : String) (acts : List ι) : List (Beat α ω) :=
  perform act world [.leaf (.observer name)] (acts.map (⟨·, some 0⟩))

theorem bare_beat (world : ω) (fans : List (Fan Receiver)) (cue : Cue ι) :
    (beat act world fans cue).bare =
      ((act world cue.act).result.1, (act world cue.act).emitted.filterMap Effect.call?,
        (act world cue.act).result.2) := by
  simp [beat, Beat.bare, Beat.calls, Simulation.calls_play]

theorem bare_perform (world : ω) (fans others : List (Fan Receiver)) {cues recast : List (Cue ι)}
    (same : cues.map Cue.act = recast.map Cue.act) :
    (perform act world fans cues).map Beat.bare =
      (perform act world others recast).map Beat.bare := by
  induction cues generalizing world fans others recast with
  | nil =>
    obtain rfl : recast = [] := by simpa using same.symm
    rfl
  | cons cue rest ih =>
    obtain ⟨⟨a, other⟩, later, rfl, first, alike⟩ := List.map_eq_cons_iff.1 same.symm
    obtain ⟨_, fan⟩ := cue
    obtain rfl : a = _ := first
    have now : (beat act world fans ⟨a, fan⟩).bare = (beat act world others ⟨a, other⟩).bare := by
      rw [bare_beat, bare_beat]
    -- The world is the same after either cue, so the rest begins alike.
    exact congrArg₂ List.cons now (ih _ _ _ alike.symm)

theorem beat_observed (world : ω) (name : String) (a : ι) :
    let b := beat act world [.leaf (.observer name)] ⟨a, some 0⟩
    b.events = (act world a).events ∧ b.fans = [.leaf (.observer name)] := by
  obtain ⟨seen, result⟩ := Simulation.seen_play (.ofFan (.leaf (.observer name)))
    (act world a).emitted
  rw [Outlet.deliverAll_ofFan, Sink.deliverAll_observer] at seen result
  constructor
  · have events := congrArg (·.map Sighting.event) seen
    simp only [Emits.emitted_map, List.map_map] at events
    exact events.trans (List.map_id _)
  · exact congrArg (Simulation.Stage.returned _ (some 0)) result

theorem performSeen_cons (world : ω) (name : String) (a : ι) (rest : List ι) :
    performSeen act world name (a :: rest) =
      beat act world [.leaf (.observer name)] ⟨a, some 0⟩ ::
        performSeen act (act world a).result.2 name rest := by
  have fans := (beat_observed act world name a).2
  rw [performSeen, List.map_cons, perform, fans]
  rfl

theorem beat_taken (world : ω) (fans : List (Fan Receiver)) (a : ι) (place : Nat) :
    let b := beat act world fans ⟨a, some place⟩
    let taken := Sink.deliverAll (act world a).events (⟨fans[place]?⟩ : Outlet)
    b.sightings = taken.emitted ∧ b.fans[place]? = taken.result.fan? := by
  obtain ⟨seen, result⟩ := Simulation.seen_play ⟨fans[place]?⟩ (act world a).emitted
  constructor
  · exact seen
  · refine (Simulation.Stage.getElem?_returned ?_).trans (congrArg Outlet.fan? result)
    exact (congrArg (·.fan?.isSome) result).trans (Outlet.isSome_deliverAll _ _)

/-- A fan takes the events of those acts that name it, as an observer of the whole run sees them. -/
theorem perform_taken (world : ω) (fans : List (Fan Receiver)) (cues : List (Cue ι))
    (name : String) (place : Nat) :
    let run := perform act world fans cues
    let heard := Beat.during Beat.events place cues (performSeen act world name (cues.map Cue.act))
    let taken := Sink.deliverAll heard (⟨fans[place]?⟩ : Outlet)
    Beat.during Beat.sightings place cues run = taken.emitted ∧
      (Beat.fansAfter fans run)[place]? = taken.result.fan? := by
  induction cues generalizing world fans with
  | nil => exact ⟨rfl, rfl⟩
  | cons cue rest ih =>
    obtain ⟨a, fan⟩ := cue
    let b := beat act world fans ⟨a, fan⟩
    have events := (beat_observed act world name a).1
    have next := ih b.world b.fans
    simp only [List.map_cons, performSeen_cons, perform, Beat.fansAfter_cons, Beat.during_cons]
    by_cases named : fan = some place
    · subst named
      obtain ⟨seen, fans_now⟩ := beat_taken act world fans a place
      rw [show b.fans[place]? = _ from fans_now] at next
      simp only [if_true, events, Sink.deliverAll_append]
      exact ⟨congrArg₂ (· ++ ·) seen next.1, next.2⟩
    · have fans_now : b.fans[place]? = fans[place]? :=
        Simulation.Stage.getElem?_returned_ne fans named _
      rw [fans_now] at next
      simp only [named, if_false, List.nil_append]
      exact next

def cues (named : Nat → Option Nat) (acts : List ι) : List (Cue ι) :=
  acts.mapIdx fun i a => ⟨a, named i⟩

theorem map_act_cues (named : Nat → Option Nat) (acts : List ι) :
    (cues named acts).map Cue.act = acts := by
  apply List.ext_getElem?
  simp [cues, Function.comp_def]

/-- What comes of the fans in a run, if this is what is heard at the cues that name a place. -/
structure Taken (fans : List (Fan Receiver)) (cues : List (Cue ι)) (run : List (Beat α ω))
    (heard : Nat → List Event) : Prop where
  after : Beat.fansAfter fans run =
    fans.mapIdx fun place fan => (Sink.deliverAll (heard place) fan).result
  sinks : (Beat.fansAfter fans run).map Fan.leaves = fans.mapIdx fun place fan =>
    fan.leaves.map fun sink => (Sink.deliverAll (heard place) sink).result
  seen (place : Nat) : Beat.during Beat.sightings place cues run =
    (fans[place]?).elim [] fun fan => (Sink.deliverAll (heard place) fan).emitted

theorem taken_perform (world : ω) (fans : List (Fan Receiver)) (cues : List (Cue ι))
    (name : String) : Taken fans cues (perform act world fans cues) fun place =>
      Beat.during Beat.events place cues (performSeen act world name (cues.map Cue.act)) := by
  have taken := perform_taken act world fans cues name
  generalize Beat.during Beat.events = heard at taken ⊢
  generalize performSeen act world name (cues.map Cue.act) = full at taken ⊢
  have after : Beat.fansAfter fans (perform act world fans cues) =
      fans.mapIdx fun place fan => (Sink.deliverAll (heard place cues full) fan).result := by
    apply List.ext_getElem?
    intro place
    rw [(taken place).2, List.getElem?_mapIdx]
    cases fans[place]? with
    | none => exact congrArg (·.result.fan?) (Outlet.deliverAll_closed _)
    | some fan => exact congrArg (·.result.fan?) (Outlet.deliverAll_ofFan _ fan)
  refine ⟨after, ?_, ?_⟩
  · rw [after]
    apply List.ext_getElem?
    intro place
    simp [Function.comp_def, Fan.leaves_deliverAll]
  · intro place
    rw [(taken place).1]
    cases fans[place]? with
    | none => exact congrArg Emits.emitted (Outlet.deliverAll_closed _)
    | some fan =>
      rw [show (⟨some fan⟩ : Outlet) = .ofFan fan from rfl, Outlet.deliverAll_ofFan]
      exact Emits.emitted_map _ _

end Performing

section Hosts

variable [Surface σ] [Display δ] [ScrollPolicy π σ]

inductive Reply (σ : Type) where
  | done
  | created (index : Nat)
  | added (refused? : Option (Refused σ))
  | handle (handle? : Option σ)
  | truth (value : Bool)
  | noSuchGroup

def Group.reply (g : Group σ) : Request σ → Reply σ
  | .add handle => .added (g.add handle).result.1
  | .remove id => .handle (g.remove id).result.1
  | .awaitsDrawing => .truth g.awaitsDrawing.result
  | .edit id change => .handle ((g.find? id).map change)
  | _ => .done

namespace Host

def reply (h : Host σ δ π) : Act σ δ π → Reply σ
  | .create .. => .created h.groups.length
  | .request index request => (h.groups[index]?).elim .noSuchGroup (·.reply request)
  | _ => .done

def answer (h : Host σ δ π) (a : Act σ δ π) : Emits Effect (Reply σ × Host σ δ π) := do
  let now ← h.act a
  return (h.reply a, now)

/-- A run that is seen as a whole shows of each act the events that it emits on the host that the
acts before it leave. -/
theorem events_performSeen (h : Host σ δ π) (name : String) (acts : List (Act σ δ π)) :
    (performSeen answer h name acts).map Beat.events =
      acts.mapIdx fun i a => ((h.run (acts.take i)).result.act a).events := by
  induction acts generalizing h with
  | nil => rfl
  | cons a rest ih =>
    have first : (beat answer h [.leaf (.observer name)] ⟨a, some 0⟩).events =
        (h.act a).events := by
      rw [(beat_observed answer h name a).1]
      simp [answer]
    have left : (answer h a).result.2 = (h.act a).result := by simp [answer]
    rw [performSeen_cons, List.map_cons, List.mapIdx_cons, first, left, ih]
    simp [run]

/-- Two runs of one script on one host give the same answers, make the same calls, and go through
the same hosts, whatever fans there are and whichever of them the acts name; and each sink of each
fan takes the events of the acts that name its fan, as they are in a run that is seen as a whole.
What is seen of an act there is what it emits, and all of it. -/
theorem perform_alike (h : Host σ δ π) (acts : List (Act σ δ π)) (fans others : List (Fan Receiver))
    (named renamed : Nat → Option Nat) (name : String) :
    let run := perform answer h fans (cues named acts)
    run.map Beat.bare = (perform answer h others (cues renamed acts)).map Beat.bare ∧
    (Taken fans (cues named acts) run fun place =>
      Beat.during Beat.events place (cues named acts) (performSeen answer h name acts)) ∧
    (performSeen answer h name acts).map Beat.events =
      acts.mapIdx fun i a => ((h.run (acts.take i)).result.act a).events := by
  refine ⟨?_, ?_, events_performSeen h name acts⟩
  · apply bare_perform
    rw [map_act_cues, map_act_cues]
  · have taken := taken_perform answer h fans (cues named acts) name
    rwa [map_act_cues] at taken

end Host

end Hosts

namespace Simulation

def Step.cue (s : Step) : Cue (Nat × Action) := ⟨(s.group, s.action), s.fan⟩

def Report.beat (r : Report) : Beat Answer World := ⟨r.answer, r.log, r.stage.world, r.stage.fans⟩

def World.answer (w : World) (a : Nat × Action) : Emits Effect (Answer × World) := w.act a.1 a.2

theorem Stage.run_eq_perform (stage : Stage) (steps : List Step) :
    (stage.run steps).map Report.beat =
      perform World.answer stage.world stage.fans (steps.map Step.cue) := by
  induction steps generalizing stage with
  | nil => rfl
  | cons s rest ih => exact congrArg₂ List.cons rfl (ih _)

theorem Stage.run_alike {stage other : Stage} (world : stage.world = other.world)
    {steps recast : List Step} (same : steps.map (·.cue.act) = recast.map (·.cue.act)) :
    (stage.run steps).map (·.beat.bare) = (other.run recast).map (·.beat.bare) := by
  have acts : (steps.map Step.cue).map Cue.act = (recast.map Step.cue).map Cue.act := by
    simpa [Function.comp_def] using same
  have alike := bare_perform World.answer stage.world stage.fans other.fans acts
  rw [← Stage.run_eq_perform, world, ← Stage.run_eq_perform] at alike
  simpa [Function.comp_def] using alike

theorem Stage.run_taken (stage : Stage) (steps : List Step) (name : String) :
    Taken stage.fans (steps.map Step.cue) ((stage.run steps).map Report.beat) fun place =>
      Beat.during Beat.events place (steps.map Step.cue)
        (performSeen World.answer stage.world name (steps.map (·.cue.act))) := by
  have taken := taken_perform World.answer stage.world stage.fans (steps.map Step.cue) name
  rw [← Stage.run_eq_perform] at taken
  simpa [Function.comp_def] using taken

end Simulation

end Wallpaper
