import Wallpaper.Proofs.Group.Blocks
import Wallpaper.Proofs.Group.Passage

/-! The chronicle of a group. Every request tells one block, but for the silent ones, which tell
nothing; so the events of a whole life are the blocks of its other requests in a row, and the
numbers count them from zero without a gap. -/
namespace Wallpaper

variable {σ δ π s : Type}

namespace Visit

def Quiet (v : Visit) : Prop := v.synchronous = false ∧ v.outcome = .delivered

theorem Quiet.took {v : Visit} (quiet : v.Quiet) : v.took = false := by
  simp [Visit.took, quiet.1]

theorem Quiet.failed {v : Visit} (quiet : v.Quiet) : v.failed = false := by
  simp [Visit.failed, quiet.2]

end Visit

theorem Detail.closes_quiet (operation : Operation) {visits : List Visit} {members : UInt32}
    (quiet : ∀ v ∈ visits, v.Quiet) (loud : operation ≠ .hide)
    (counted : members.toNat = visits.length) :
    (Detail.broadcast operation members none 0).Closes operation visits := by
  refine ⟨rfl, loud, counted, ?_, ?_⟩
  · rw [List.filter_eq_nil_iff.2 fun v mem => by simp [(quiet v mem).took]]
    rfl
  · rw [List.countP_eq_zero.2 fun v mem => by simp [(quiet v mem).failed]]
    rfl

theorem Detail.closes_progress (operation : Operation) {visits : List Visit} {members : UInt32}
    {p : Progress} (sums : p.Sums visits) (loud : operation ≠ .hide)
    (counted : members.toNat = visits.length) :
    (Detail.broadcast operation members p.taken p.failures).Closes operation visits := by
  refine ⟨rfl, loud, counted, sums.taken, ?_⟩
  have within : visits.countP Visit.failed < UInt32.size := by
    have all := List.countP_le_length (p := Visit.failed) (l := visits)
    have bound := members.toNat_lt_size
    omega
  rw [sums.failures]
  exact UInt32.toNat_ofNat_of_lt' within

namespace Group

theorem toNat_reportedCount_of_lt {g : Group σ} (small : g.members.length < UInt32.size) :
    g.reportedCount.toNat = g.members.length := by
  rw [toNat_reportedCount]
  omega

variable [Surface σ]

theorem quiet_rounds (visit : s → σ → Emits Effect (σ × s)) (state : s) (members : List σ) :
    ∀ v ∈ rounds visit quiet state members, v.Quiet :=
  forall_rounds (p := Visit.Quiet) (fun _ _ => ⟨rfl, rfl⟩) state members

section Passes

variable {operation : Operation} {visit : s → σ → Emits Effect (σ × s)}
  {account : s → σ → Visit}

/-- The count in the closing event is the count of visits, since a sweep loses no member. -/
theorem counted_sweep {g : Group σ} (now : Group σ) {header : Header}
    (recounts : Recounts header operation visit account) (state : s)
    (members : now.members = (sweep visit state g.members).result.1)
    (small : g.members.length < UInt32.size) :
    now.reportedCount.toNat = (rounds visit account state g.members).length := by
  have same : now.members.length = g.members.length := by rw [members, length_sweep]
  rw [recounts.length_rounds, ← same]
  exact toNat_reportedCount_of_lt (same ▸ small)

theorem accounts_pass {g now : Group σ} {request : Request σ} {events : List Event}
    (recounts : Recounts g.header operation visit account) (state : s) (flipped : Option Bool)
    {closing : Detail} (asked : request.operation? = some operation)
    (flips : flipped ≠ none → operation = .visibility ∨ operation = .layers)
    (closes : closing.Closes operation (rounds visit account state g.members))
    (all : events = flipped.toList.map (fun hidden => ⟨g.header, .visibility hidden⟩) ++
      (sweep visit state g.members).events ++ [⟨g.header, closing⟩])
    (seq : now.seq = g.seq + 1) (exiting : now.exiting = g.exiting) :
    ∃ block?, Moment.Accounts ⟨g, request⟩ events now block? := by
  have sound : Pass.Sound g.ids
      ⟨operation, flipped, rounds visit account state g.members, closing⟩ :=
    { flips, closes
      visited := recounts.surfaces state g.members
      failed := forall_rounds recounts.failed state g.members
      unchanged := forall_rounds recounts.unchanged state g.members }
  refine ⟨some (.pass _), .told (Moment.isSilent_eq_false asked) (.pass asked sound) ?_ seq ?_⟩
  · simp [all, recounts.events_sweep, Block.events, Block.details, Pass.details,
      Function.comp_def]
  · simp [exiting, Block.isExit]

end Passes

theorem accounts_add (g : Group σ) (handle : σ) : ∃ block?, Moment.Accounts ⟨g, .add handle⟩
    (g.add handle).events (g.add handle).result.2 block? := by
  unfold add
  cases refusal : g.refusal? handle with
  | some reason => exact ⟨_, .told rfl (.add (by decide)) rfl rfl (by simp [Block.isExit])⟩
  | none => exact ⟨_, .told rfl (.add (by decide)) rfl rfl (by simp [Block.isExit])⟩

theorem accounts_remove (g : Group σ) (id : SurfaceId) : ∃ block?,
    Moment.Accounts ⟨g, .remove id⟩ (g.remove id).events (g.remove id).result.2 block? := by
  unfold remove
  cases found : g.find? id with
  | none =>
    have absent : id ∉ g.ids := (g.find?_eq_none_iff id).1 found
    exact ⟨_, .silent (decide_eq_true absent) rfl rfl rfl⟩
  | some handle =>
    have present : ¬ id ∉ g.ids := mt (g.find?_eq_none_iff id).2 (by simp [found])
    exact ⟨_, .told (decide_eq_false present) .remove rfl rfl (by simp [Block.isExit])⟩

theorem accounts_exit [Display δ] (g : Group σ) (d : δ) : ∃ block?,
    Moment.Accounts ⟨g, .exit⟩ (g.exit d).events (g.exit d).result.1 block? := by
  unfold exit
  cases gone : g.exiting with
  | true => exact ⟨_, .silent gone (by simp) (by simp) (by simp [gone])⟩
  | false => exact ⟨_, .told gone (.exit gone) rfl rfl (by simp [Block.isExit])⟩

section Passing

variable [SteadySurface σ] {g : Group σ} (small : g.members.length < UInt32.size)

include small

theorem accounts_hide (hidden : Bool) (reason : String) : ∃ block?,
    Moment.Accounts ⟨g, .hide hidden reason⟩ (g.hide hidden reason).events
      (g.hide hidden reason).result block? := by
  have recounts := recounts_hideVisit (σ := σ) g.header hidden reason
  have counted := counted_sweep (g.hide hidden reason).result recounts () rfl small
  have closes : Detail.Closes .hide (rounds (hideVisit g.header hidden reason) quiet () g.members)
      (.hide hidden reason (g.hide hidden reason).result.reportedCount) := ⟨rfl, counted⟩
  exact accounts_pass recounts () none rfl (absurd rfl) closes (by simp [hide]) rfl rfl

theorem accounts_send (command : Command) (synchronous : Bool) : ∃ block?,
    Moment.Accounts ⟨g, .send command synchronous⟩ (g.send command synchronous).events
      (g.send command synchronous).result block? := by
  have recounts := recounts_commandVisit (σ := σ) g.header command
  have counted := counted_sweep (g.send command synchronous).result recounts (.start synchronous)
    rfl small
  have sums := sums_rounds (fun p => p) (fun _ _ => rfl) (learns_commandVisit g.header command)
    (.start synchronous) (Progress.sums_start synchronous) g.members
  have closes := Detail.closes_progress .command sums (by decide) counted
  exact accounts_pass recounts (.start synchronous) none rfl (absurd rfl) closes (by simp [send])
    rfl rfl

theorem accounts_reposition [ScrollPolicy π σ] [SteadyPolicy π σ] (policy : π) (size : Size)
    (synchronous : Bool) : ∃ block?,
    Moment.Accounts ⟨g, .reposition size synchronous⟩ (g.reposition policy size synchronous).events
      (g.reposition policy size synchronous).result.1 block? := by
  have recounts := recounts_offsetVisit (σ := σ) (π := π) g.header size
  have counted := counted_sweep (g.reposition policy size synchronous).result.1 recounts
    (policy, .start synchronous) rfl small
  have sums := sums_rounds Prod.snd (fun _ _ => rfl) (learns_offsetVisit g.header size)
    (policy, .start synchronous) (Progress.sums_start synchronous) g.members
  have closes := Detail.closes_progress .offsets sums (by decide) counted
  exact accounts_pass recounts (policy, .start synchronous) none rfl (absurd rfl) closes
    (by simp [reposition]) rfl rfl

theorem accounts_animate (animation : Animation) : ∃ block?,
    Moment.Accounts ⟨g, .animate animation⟩ (g.animate animation).events
      (g.animate animation).result block? := by
  have recounts := recounts_animationVisit (σ := σ) g.header animation
  have counted := counted_sweep (g.animate animation).result recounts () rfl small
  have quiet := quiet_rounds (animationVisit g.header animation) () g.members
  have closes := Detail.closes_quiet .animation quiet (by decide) counted
  exact accounts_pass recounts () none rfl (absurd rfl) closes (by simp [animate]) rfl rfl

theorem accounts_refresh [Display δ] [ScrollPolicy π σ] [SteadyPolicy π σ] (d : δ) (policy : π)
    (visible : Bool) (adjustment : Option Int32) {request : Request σ}
    (asked : request.operation? = some (refreshOperation adjustment)) : ∃ block?,
    Moment.Accounts ⟨g, request⟩ (g.refresh d policy visible adjustment).events
      (g.refresh d policy visible adjustment).result.group block? := by
  obtain ⟨size, group, emitted⟩ := g.refresh_eq_sweep d policy visible adjustment
  have recounts := recounts_refreshVisit (σ := σ) (π := π) g.header size visible adjustment
  have counted := counted_sweep _ recounts policy (congrArg Group.members group) small
  have quiet := quiet_rounds (refreshVisit g.header size visible adjustment) policy g.members
  have loud : refreshOperation adjustment ≠ .hide := by
    cases adjustment <;> simp [refreshOperation]
  have closes := Detail.closes_quiet _ quiet loud counted
  let flipped : Option Bool := if g.hidden = visible then some !visible else none
  have flips : flipped ≠ none →
      refreshOperation adjustment = .visibility ∨ refreshOperation adjustment = .layers := by
    intro _
    cases adjustment
    · exact .inl rfl
    · exact .inr rfl
  refine accounts_pass recounts policy flipped asked flips closes ?_ ?_ ?_
  · rw [Emits.events, emitted]
    by_cases same : g.hidden = visible <;>
      simp [same, flipped, Emits.events, Effect.event?, List.filterMap_cons]
  · rw [group]
  · rw [group]

end Passing

theorem accounts_serve [SteadySurface σ] [Display δ] [ScrollPolicy π σ] [SteadyPolicy π σ]
    {g : Group σ} (small : g.members.length < UInt32.size) (display : δ) (policy : π)
    (request : Request σ) : ∃ block?,
    Moment.Accounts ⟨g, request⟩ (g.serve display policy request).events
      (g.serve display policy request).result.group block? := by
  cases request with
  | add handle => simpa [serve] using g.accounts_add handle
  | remove id => simpa [serve] using g.accounts_remove id
  | exit => simpa [serve] using g.accounts_exit display
  | hide hidden reason => simpa [serve] using accounts_hide small hidden reason
  | send command synchronous => simpa [serve] using accounts_send small command synchronous
  | reposition size synchronous =>
    simpa [serve] using accounts_reposition small policy size synchronous
  | setVisible visible =>
    simpa [serve, setVisible] using accounts_refresh small display policy visible none rfl
  | restack visible adjustment =>
    simpa [serve, restack] using
      accounts_refresh small display policy visible (some adjustment) rfl
  | animate animation => simpa [serve] using accounts_animate small animation
  | awaitsDrawing =>
    exact ⟨none, .silent rfl (by simp [serve, events_awaitsDrawing]) rfl rfl⟩
  | edit id change => exact ⟨none, .silent rfl rfl rfl rfl⟩

end Group

/-- The blocks told so far, each with the moment of its request: one of every request but the silent
ones. -/
structure Chronicle [Surface σ] (moments : List (Moment σ)) (events : List Event) (now : Group σ)
    (log : List (Moment σ × Block)) : Prop where
  order : log.map Prod.fst = moments.filter (!·.isSilent)
  events : events = log.flatMap fun p => p.2.events p.1.group.header
  tells : ∀ p ∈ log, p.1.Tells p.2
  numbers : log.map (fun p => p.1.group.seq) = (List.range log.length).map UInt64.ofNat
  next : now.seq = .ofNat log.length
  exits : (log.map Prod.snd).countP Block.isExit ≤ now.exiting.toNat

theorem Moment.Tells.not_exiting [Surface σ] {m : Moment σ} {block : Block} (tells : m.Tells block)
    (last : block.isExit = true) : m.group.exiting = false := by
  cases tells with
  | exit first => exact first
  | _ => cases last

namespace Chronicle

variable [Surface σ] {moments : List (Moment σ)} {events new : List Event} {g now : Group σ}
  {log : List (Moment σ × Block)} {request : Request σ} {block? : Option Block}

theorem sublist (told : Chronicle moments events g log) : (log.map Prod.fst).Sublist moments :=
  told.order ▸ List.filter_sublist

theorem extend (told : Chronicle moments events g log)
    (accounts : Moment.Accounts ⟨g, request⟩ new now block?) :
    ∃ log, Chronicle (moments ++ [⟨g, request⟩]) (events ++ new) now log := by
  cases accounts with
  | silent quiet nothing seq exiting =>
    refine ⟨log, ?_⟩
    constructor
    · simp [told.order, List.filter_append, quiet]
    · rw [nothing, List.append_nil, told.events]
    · exact told.tells
    · exact told.numbers
    · rw [seq, told.next]
    · rw [exiting]
      exact told.exits
  | @told block loud tells all seq exiting =>
    refine ⟨log ++ [(⟨g, request⟩, block)], ?_⟩
    constructor
    · simp [told.order, List.filter_append, loud]
    · simp [all, told.events]
    · intro p mem
      rcases List.mem_append.1 mem with mem | mem
      · exact told.tells p mem
      · rw [List.mem_singleton.1 mem]
        exact tells
    · simp [told.numbers, told.next, List.range_succ]
    · rw [seq, told.next]
      simp [UInt64.ofNat_add]
    · have exits := told.exits
      rw [exiting, List.map_append, List.countP_append]
      cases last : block.isExit with
      | false => simpa [last] using exits
      | true =>
        have before : g.exiting = false := tells.not_exiting last
        rw [before, Bool.toNat_false] at exits
        have one : List.countP Block.isExit [block] = 1 := by simp [last]
        simpa [one] using Nat.le_of_eq (Nat.le_zero.1 exits)

end Chronicle

namespace Life

variable [Surface σ] [SteadySurface σ] [Display δ] [ScrollPolicy π σ] [SteadyPolicy π σ]

theorem exists_chronicle (life : Life σ) (young : life.group.seq = 0) (turns : List (Turn σ δ π))
    (small : ∀ m ∈ life.moments turns, m.group.members.length < UInt32.size) :
    ∃ log, Chronicle (life.moments turns) (life.run turns).events (life.run turns).result.group
      log := by
  refine life.run_induction (fun moments events now => ∃ log, Chronicle moments events now log)
    ?_ ?_ turns small
  · exact ⟨[], .refl _, rfl, by simp, rfl, young, Nat.zero_le _⟩
  · intro moments events g request display policy ⟨log, told⟩ small
    obtain ⟨block?, accounts⟩ := Group.accounts_serve small display policy request
    exact told.extend accounts

/-- The events of a group are blocks that follow one another, each under the group's key and the
next number; the last number used is one less than the number the group would use next. -/
theorem exists_blocks_of_lived (display : DisplayId) (token : TokenId) (d : δ)
    (turns : List (Turn σ δ π)) (few : turns.length < UInt64.size)
    (small : ∀ m ∈ (start display token d).result.moments turns,
      m.group.members.length < UInt32.size) :
    let life := lived (σ := σ) display token d turns
    ∃ log, Chronicle ((start display token d).result.moments turns) life.events life.result.group
        log ∧
      log.length = life.result.group.seq.toNat ∧
      ∀ p ∈ log, p.1.group.key = (display, token) := by
  intro life
  obtain ⟨log, told⟩ := (start display token d).result.exists_chronicle rfl turns small
  have silent_start : life.events = ((start display token d).result.run turns).events := by
    simp [life, lived, start, Group.create]
  refine ⟨log, silent_start ▸ told, ?_, ?_⟩
  · have made : log.length ≤ turns.length := by
      have blocks := told.sublist.length_le
      have asked := (start display token d).result.length_moments turns
      rw [List.length_map] at blocks
      omega
    have next : life.result.group.seq = .ofNat log.length := told.next
    rw [next]
    exact (UInt64.toNat_ofNat_of_lt' (Nat.lt_of_le_of_lt made few)).symm
  · intro p mem
    have moment := told.sublist.subset (List.mem_map_of_mem mem)
    exact key_moments _ turns p.1 moment

/-- A refused newcomer, a command that the newest member does not take, an exit asked for twice, and
a handle that comes back too late. -/
def evening : List (Turn Simulation.Pane Simulation.Screen Simulation.Policy) :=
  [.ask (.add { id := ⟨7⟩ }), .ask (.add { id := ⟨8⟩, client := .detached }),
    .ask (.add { id := ⟨8⟩ }), .ask (.send ⟨"tap", 1, 2, 0, none⟩ true),
    .ask (.reposition ⟨0, 0⟩ true), .ask (.setVisible false), .ask (.hide false "dawn"),
    .ask (.remove ⟨9⟩), .ask .exit, .ask .exit, .ask (.remove ⟨7⟩), .readd 1].map
    (⟨⟨⟨0, 0⟩, none, 0, []⟩, .scripted [⟨7⟩], ·⟩)

theorem exists_blocks_of_lived_evening :
    let life := lived ⟨0⟩ ⟨1⟩ (⟨⟨0, 0⟩, none, 0, []⟩ : Simulation.Screen) evening
    let first := (start ⟨0⟩ ⟨1⟩ (⟨⟨0, 0⟩, none, 0, []⟩ : Simulation.Screen)).result
    let moments := first.moments evening
    evening.length < UInt64.size ∧ (∀ m ∈ moments, m.group.members.length < UInt32.size) ∧
      life.result.group.seq = 10 ∧
      ∃ log, Chronicle moments life.events life.result.group log ∧
        log.length = life.result.group.seq.toNat ∧ ∀ p ∈ log, p.1.group.key = (⟨0⟩, ⟨1⟩) := by
  intro life first moments
  have few : evening.length < UInt64.size := by decide
  have small : ∀ m ∈ moments, m.group.members.length < UInt32.size := by decide
  have seq : life.result.group.seq = 10 := by decide
  exact ⟨few, small, seq, exists_blocks_of_lived _ _ _ evening few small⟩

end Life

end Wallpaper
