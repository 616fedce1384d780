import Wallpaper.Proofs.Group.Passage

/-! Who goes by a number, and how a group is emptied. An owner may have given several members one
number. Whoever then asks by that number gets the oldest of them, so a list of the numbers taken
beforehand empties the group from its oldest member to its newest, and leaves nobody behind. -/
namespace Wallpaper.Group

variable {σ : Type} [Surface σ]

/-- All that ask by a number agree on who goes by it: nobody, or the oldest member that does. -/
inductive Resolves (g : Group σ) (id : SurfaceId) : Prop
  | nobody (others : ∀ member ∈ g.members, Surface.id member ≠ id)
      (contains : g.contains id = false)
      (find : g.find? id = none)
      (modify : ∀ change, g.modify id change = g)
      (remove : g.remove id = pure (none, g))
  | oldest (older newer : List σ) (this : σ)
      (members : g.members = older ++ this :: newer)
      (goes_by : Surface.id this = id)
      (others : ∀ member ∈ older, Surface.id member ≠ id)
      (contains : g.contains id = true)
      (find : g.find? id = some this)
      (modify : ∀ change, g.modify id change = { g with members := older ++ change this :: newer })
      (remove : (g.remove id).result =
        (some this, { g with members := older ++ newer, seq := g.seq + 1 }))

theorem first_of_others (id : SurfaceId) (change : σ → σ) {older : List σ}
    (others : ∀ member ∈ older, Surface.id member ≠ id) (newer : List σ) :
    modify.first id change (older ++ newer) = older ++ modify.first id change newer := by
  induction older with
  | nil => rfl
  | cons member older ih =>
    obtain ⟨other, others⟩ := List.forall_mem_cons.1 others
    simp [modify.first, other, ih others]

theorem resolves (g : Group σ) (id : SurfaceId) : g.Resolves id := by
  cases found : g.find? id with
  | none =>
    have others : ∀ member ∈ g.members, Surface.id member ≠ id := by simpa [find?] using found
    refine .nobody others ?_ found (fun change => ?_) (by simp [remove, found])
    · simpa [contains] using others
    · have kept := first_of_others id change others []
      simp only [List.append_nil, modify.first] at kept
      simp [modify, kept]
  | some this =>
    obtain ⟨older, newer, members, goes_by, others⟩ := exists_oldest found
    refine .oldest older newer this members goes_by others ?_ found (fun change => ?_) ?_
    · simp [contains, members, goes_by]
    · simp [modify, members, first_of_others id change others, modify.first, goes_by]
    · simp [remove, found, members, eraseP_of_others id others goes_by]

/-- The reports of a group that is emptied. Its members leave from the oldest to the newest, each
under a number of its own, and the count of those left goes down to zero. -/
def departures (g : Group σ) : List Event :=
  g.ids.mapIdx fun place id =>
    ⟨⟨g.display, g.token, g.seq + .ofNat place⟩,
      .membership id .removed (.ofNat (g.members.length - 1 - place))⟩

/-- The group after its oldest members have left. -/
def afterLeaving (g : Group σ) (count : Nat) : Group σ :=
  { g with members := g.members.drop count, seq := g.seq + .ofNat count }

theorem seq_add_ofNat_succ (seq : UInt64) (place : Nat) :
    seq + .ofNat (place + 1) = seq + 1 + .ofNat place := by
  rw [UInt64.ofNat_add, UInt64.add_comm (.ofNat place), UInt64.add_assoc]
  rfl

theorem remove_head (g : Group σ) {oldest : σ} {newer : List σ}
    (members : g.members = oldest :: newer) :
    g.remove (Surface.id oldest) =
      ⟨(some oldest, { g with members := newer, seq := g.seq + 1 }),
        [.event ⟨g.header, .membership (Surface.id oldest) .removed
          { g with members := newer }.reportedCount⟩]⟩ := by
  have found : g.find? (Surface.id oldest) = some oldest := by simp [find?, members]
  have left : g.members.eraseP (Surface.id · == Surface.id oldest) = newer := by simp [members]
  unfold remove
  rw [found]
  simp only [left]
  rfl

theorem departures_cons (g : Group σ) {oldest : σ} {newer : List σ}
    (members : g.members = oldest :: newer) (few : g.members.length < UInt32.size) :
    g.departures =
      ⟨g.header, .membership (Surface.id oldest) .removed
          { g with members := newer }.reportedCount⟩ ::
        { g with members := newer, seq := g.seq + 1 }.departures := by
  have left : { g with members := newer }.reportedCount = .ofNat newer.length := by
    rw [members, List.length_cons] at few
    have counted : newer.length ≤ UInt32.size - 1 := by omega
    rw [reportedCount, Nat.min_eq_left counted]
  have fewer (place : Nat) : newer.length + 1 - 1 - (place + 1) = newer.length - 1 - place := by
    omega
  simp only [departures, ids, members, List.map_cons, List.mapIdx_cons, List.length_cons]
  congr 1
  · simp [header, left]
  · congr 1
    funext place id
    rw [seq_add_ofNat_succ, fewer]

/-- Whoever walks a list of the numbers gets the members in their order, also where several of them
share a number: by then the one before has left. -/
theorem removeEach_take (g : Group σ) (few : g.members.length < UInt32.size) {count : Nat}
    (le : count ≤ g.members.length) :
    g.removeEach (g.ids.take count) =
      ⟨(g.members.take count, g.afterLeaving count), (g.departures.take count).map .event⟩ := by
  induction count generalizing g with
  | zero => refine Emits.ext ?_ ?_ <;> simp [removeEach, afterLeaving]
  | succ count ih =>
    obtain ⟨oldest, newer, members⟩ := List.exists_cons_of_length_pos (Nat.zero_lt_of_lt le)
    let after : Group σ := { g with members := newer, seq := g.seq + 1 }
    have numbers : g.ids = Surface.id oldest :: after.ids := by simp [after, ids, members]
    have shorter : g.members.length = after.members.length + 1 := by simp [after, members]
    have rest := ih after (by omega) (by omega)
    rw [numbers, List.take_succ_cons, removeEach, g.remove_head members,
      g.departures_cons members few, List.take_succ_cons]
    refine Emits.ext ?_ ?_
    · simp [rest, afterLeaving, members, after, ← seq_add_ofNat_succ]
    · simp [rest, after]

/-- Asked by its number, each member in turn is the one that leaves, whoever shares the number. In
the end all have come back in their order, and nobody is left. -/
theorem drain_empties (g : Group σ) (few : g.members.length < UInt32.size) :
    (∀ id, g.Resolves id) ∧
      (∀ place (here : place < g.members.length),
        ((g.removeEach (g.ids.take place)).result.2.remove (Surface.id g.members[place])).result.1 =
          some g.members[place]) ∧
      g.drain =
        ⟨(g.members, { g with members := [], seq := g.seq + .ofNat g.members.length }),
          g.departures.map .event⟩ := by
  refine ⟨g.resolves, fun place here => ?_, ?_⟩
  · have left : (g.afterLeaving place).members = g.members[place] :: g.members.drop (place + 1) :=
      List.drop_eq_getElem_cons here
    rw [g.removeEach_take few (Nat.le_of_lt here), Group.remove_head _ left]
  · have all_ids : g.ids.length ≤ g.members.length := by simp [ids]
    have all_departures : g.departures.length ≤ g.members.length := by simp [departures, ids]
    have walk := g.removeEach_take few (Nat.le_refl _)
    rwa [List.take_of_length_le all_ids, List.take_of_length_le all_departures, List.take_length,
      afterLeaving, List.drop_length] at walk

/-- A group of three, of whom the newest was given the number of the oldest. -/
def namesakes : Group Simulation.Pane :=
  { display := ⟨0⟩, token := ⟨1⟩
    members := [{ id := ⟨7⟩ }, { id := ⟨8⟩ }, { id := ⟨9⟩, layer := 2 }]
    hidden := false, exiting := true, seq := 4 : Group Simulation.Pane }.modify ⟨9⟩
    ({ · with id := ⟨7⟩ })

theorem drain_empties_namesakes :
    namesakes.ids = [⟨7⟩, ⟨8⟩, ⟨7⟩] ∧ namesakes.members.length < UInt32.size ∧
      namesakes.drain =
        ⟨(namesakes.members, { namesakes with members := [], seq := 7 }),
          [.event ⟨⟨⟨0⟩, ⟨1⟩, 4⟩, .membership ⟨7⟩ .removed 2⟩,
            .event ⟨⟨⟨0⟩, ⟨1⟩, 5⟩, .membership ⟨8⟩ .removed 1⟩,
            .event ⟨⟨⟨0⟩, ⟨1⟩, 6⟩, .membership ⟨7⟩ .removed 0⟩]⟩ := by
  have few : namesakes.members.length < UInt32.size := by decide
  have reports : namesakes.departures.map Effect.event =
      [.event ⟨⟨⟨0⟩, ⟨1⟩, 4⟩, .membership ⟨7⟩ .removed 2⟩,
        .event ⟨⟨⟨0⟩, ⟨1⟩, 5⟩, .membership ⟨8⟩ .removed 1⟩,
        .event ⟨⟨⟨0⟩, ⟨1⟩, 6⟩, .membership ⟨7⟩ .removed 0⟩] := by decide
  obtain ⟨-, -, drained⟩ := drain_empties namesakes few
  exact ⟨by decide, few, reports ▸ drained⟩

end Wallpaper.Group
