import Wallpaper.Proofs.Group.Events
import Wallpaper.Proofs.Recording.Grammar

/-! Replaying the events of a group. A reader who has only the events knows the members in their
order and both flags, as they stand after each operation. No operation changes one of them
silently, and none counts the members as they were before. -/
namespace Wallpaper

def Detail.members? : Detail → Option UInt32
  | .membership _ _ members => some members
  | .exit members => some members
  | .hide _ _ members => some members
  | .broadcast _ members _ _ => some members
  | .visibility _ => none
  | .dispatch .. => none

structure Standing where
  ids : List SurfaceId
  hidden : Bool
  exiting : Bool
deriving DecidableEq

namespace Standing

def initial : Standing := ⟨[], false, false⟩

def after (s : Standing) : Detail → Standing
  | .membership surface .added _ => { s with ids := s.ids ++ [surface] }
  | .membership surface .removed _ => { s with ids := s.ids.erase surface }
  | .membership _ .rejected _ => s
  | .exit _ => { s with exiting := true }
  | .hide hidden _ _ => { s with hidden }
  | .visibility hidden => { s with hidden }
  | .broadcast .. => s
  | .dispatch .. => s

def replay (s : Standing) (events : List Event) : Standing :=
  events.foldl (fun s e => s.after e.detail) s

/-- The count of members as events give it; from the greatest `UInt32` on it says no more. -/
def count (s : Standing) : Nat := min s.ids.length (UInt32.size - 1)

/-- Every count of members in the events is the count after its event. -/
def Counted : Standing → List Event → Prop
  | _, [] => True
  | s, e :: later =>
    (∀ n, e.detail.members? = some n → n.toNat = (s.after e.detail).count) ∧
      (s.after e.detail).Counted later

theorem replay_append (s : Standing) (earlier later : List Event) :
    s.replay (earlier ++ later) = (s.replay earlier).replay later :=
  List.foldl_append

theorem counted_append (s : Standing) (earlier later : List Event) :
    s.Counted (earlier ++ later) ↔ s.Counted earlier ∧ (s.replay earlier).Counted later := by
  induction earlier generalizing s with
  | nil => simp [Counted, replay]
  | cons e earlier ih =>
    simp only [List.cons_append, Counted, ih, and_assoc]
    rfl

end Standing

namespace Group

variable {σ δ π : Type}

theorem toNat_reportedCount (g : Group σ) :
    g.reportedCount.toNat = min g.members.length (UInt32.size - 1) :=
  UInt32.toNat_ofNat_of_lt' (Nat.lt_of_le_of_lt (Nat.min_le_right ..) (by decide))

theorem header_flipHidden [Display δ] (g : Group σ) (d : δ) (visible : Bool) :
    (g.flipHidden d visible).result.1.header = g.header := by
  unfold flipHidden
  split <;> rfl

section Members

variable [Surface σ]

def standing (g : Group σ) : Standing := ⟨g.ids, g.hidden, g.exiting⟩

/-- The events tell how the group went from what it was to what it is. -/
structure Told (g : Group σ) (events : List Event) (now : Group σ) : Prop where
  key : now.key = g.key
  keys : ∀ e ∈ events, e.key = g.key
  replayed : g.standing.replay events = now.standing
  counted : g.standing.Counted events
  fits : ∀ e ∈ events, e.Fits

namespace Told

variable {g now : Group σ}

theorem silent (key : now.key = g.key) (same : now.standing = g.standing) : Told g [] now where
  key := key
  keys := by simp
  replayed := same.symm
  counted := trivial
  fits := by simp

theorem trans {earlier later : List Event} {between : Group σ} (first : Told g earlier between)
    (second : Told between later now) : Told g (earlier ++ later) now where
  key := second.key.trans first.key
  keys := by
    intro e mem
    rcases List.mem_append.1 mem with mem | mem
    · exact first.keys e mem
    · exact (second.keys e mem).trans first.key
  replayed := by rw [Standing.replay_append, first.replayed, second.replayed]
  counted := by
    rw [Standing.counted_append, first.replayed]
    exact ⟨first.counted, second.counted⟩
  fits := by
    intro e mem
    rcases List.mem_append.1 mem with mem | mem
    · exact first.fits e mem
    · exact second.fits e mem

theorem one {header : Header} {detail : Detail} (key : now.key = g.key)
    (from_group : header.key = g.key) (replayed : g.standing.after detail = now.standing)
    (counts : detail.members? = none ∨ detail.members? = some now.reportedCount)
    (fits : (Wire.utf8 detail.reason).length ≤ Wire.Codec.maxLength) :
    Told g [⟨header, detail⟩] now where
  key := key
  keys := by simpa using from_group
  replayed := replayed
  counted := by
    refine ⟨?_, trivial⟩
    intro n given
    rcases counts with none_given | counts
    · cases none_given.symm.trans given
    · cases counts.symm.trans given
      rw [toNat_reportedCount, replayed]
      simp [Standing.count, standing, ids]
  fits := by
    intro e mem
    cases List.mem_singleton.1 mem
    exact fits

theorem visits {header : Header} {operation : Operation} {ids : List SurfaceId}
    {events : List Event} (key : header.key = g.key)
    (reports : List.Forall₂ (ReportsVisit header operation) ids events) : Told g events g := by
  induction reports with
  | nil => exact silent rfl rfl
  | @cons id _ _ _ first _ ih =>
    obtain ⟨synchronous, outcome, rfl⟩ := first
    have visit : Told g [⟨header, .dispatch operation id synchronous outcome⟩] g :=
      one rfl key rfl (.inl rfl) Recording.utf8_empty_le
    exact visit.trans ih

/-- A sweep over the members, closed by an event that counts them. -/
theorem broadcast {operation : Operation} {visit : s → σ → Emits Effect (σ × s)}
    (v : IsVisit g.header operation visit) (state : s) (closing : Detail)
    (key : now.key = g.key) (members : now.members = (sweep visit state g.members).result.1)
    (replayed : g.standing.after closing = ⟨g.ids, now.hidden, now.exiting⟩)
    (counts : closing.members? = some now.reportedCount)
    (fits : (Wire.utf8 closing.reason).length ≤ Wire.Codec.maxLength) :
    Told g ((sweep visit state g.members).events ++ [⟨g.header, closing⟩]) now := by
  have same : now.ids = g.ids := by
    rw [ids, members, v.ids_sweep]
    rfl
  refine (visits rfl (v.events_sweep state g.members)).trans (one key rfl ?_ (.inr counts) fits)
  rw [replayed, standing, same]

end Told

theorem told_add (g : Group σ) (handle : σ) :
    Told g (g.add handle).events (g.add handle).result.2 := by
  unfold add
  cases refusal : g.refusal? handle with
  | some reason => exact .one rfl rfl rfl (.inr rfl) Recording.utf8_empty_le
  | none =>
    refine .one rfl rfl ?_ (.inr rfl) Recording.utf8_empty_le
    simp [Standing.after, standing, ids]

theorem ids_eraseP (members : List σ) (id : SurfaceId) :
    (members.eraseP (Surface.id · == id)).map Surface.id = (members.map Surface.id).erase id := by
  induction members with
  | nil => rfl
  | cons member newer ih =>
    by_cases this : Surface.id member = id
    · simp [this]
    · simp [this, ih]

theorem told_remove (g : Group σ) (id : SurfaceId) :
    Told g (g.remove id).events (g.remove id).result.2 := by
  unfold remove
  cases found : g.find? id with
  | none => exact .silent rfl rfl
  | some handle =>
    refine .one rfl rfl ?_ (.inr rfl) Recording.utf8_empty_le
    simp [Standing.after, standing, ids, ids_eraseP]

theorem told_exit [Display δ] (g : Group σ) (d : δ) :
    Told g (g.exit d).events (g.exit d).result.1 := by
  unfold exit
  cases gone : g.exiting with
  | true => exact .silent rfl rfl
  | false => exact .one rfl rfl rfl (.inr rfl) Recording.utf8_empty_le

theorem ids_modify (g : Group σ) (id : SurfaceId) (change : σ → σ)
    (keeps : ∀ s, Surface.id s = id → Surface.id (change s) = id) :
    (g.modify id change).ids = g.ids :=
  g.map_modify id change fun s _ this => (keeps s this).trans this.symm

theorem told_modify (g : Group σ) (id : SurfaceId) (change : σ → σ)
    (keeps : ∀ s, Surface.id s = id → Surface.id (change s) = id) :
    Told g [] (g.modify id change) :=
  .silent rfl (congrArg (Standing.mk · g.hidden g.exiting) (g.ids_modify id change keeps))

theorem told_flipHidden [Display δ] (g : Group σ) (d : δ) (visible : Bool) :
    Told g (g.flipHidden d visible).events (g.flipHidden d visible).result.1 := by
  unfold flipHidden
  split
  · simp only [Emits.events_bind, events_ask, events_report, Emits.events_pure]
    exact .one rfl rfl rfl (.inl rfl) Recording.utf8_empty_le
  · exact .silent rfl rfl

theorem events_awaitsDrawing (g : Group σ) : g.awaitsDrawing.events = [] := by
  unfold awaitsDrawing
  induction g.members with
  | nil => rfl
  | cons member newer ih =>
    simp only [awaitsDrawing.anyNewestFirst, Emits.events_bind, ih, List.nil_append]
    split <;> simp

section Broadcasts

variable [SteadySurface σ]

theorem told_hide (g : Group σ) (hidden : Bool) (reason : String)
    (short : (Wire.utf8 reason).length ≤ Wire.Codec.maxLength) :
    Told g (g.hide hidden reason).events (g.hide hidden reason).result := by
  rw [hide, Emits.events_bind]
  exact .broadcast (isVisit_hideVisit g.header hidden reason) () _ rfl rfl rfl rfl short

theorem told_send (g : Group σ) (command : Command) (synchronous : Bool) :
    Told g (g.send command synchronous).events (g.send command synchronous).result := by
  rw [send, Emits.events_bind]
  exact .broadcast (isVisit_commandVisit g.header command) _ _ rfl rfl rfl rfl
    Recording.utf8_empty_le

theorem told_reposition [ScrollPolicy π σ] [SteadyPolicy π σ] (g : Group σ) (policy : π)
    (size : Size) (synchronous : Bool) :
    Told g (g.reposition policy size synchronous).events
      (g.reposition policy size synchronous).result.1 := by
  rw [reposition, Emits.events_bind]
  exact .broadcast (isVisit_offsetVisit g.header size) _ _ rfl rfl rfl rfl
    Recording.utf8_empty_le

theorem told_animate (g : Group σ) (animation : Animation) :
    Told g (g.animate animation).events (g.animate animation).result := by
  rw [animate, Emits.events_bind]
  exact .broadcast (isVisit_animationVisit g.header animation) () _ rfl rfl rfl rfl
    Recording.utf8_empty_le

theorem told_refresh [Display δ] [ScrollPolicy π σ] [SteadyPolicy π σ] (g : Group σ) (d : δ)
    (policy : π) (visible : Bool) (adjustment : Option Int32) :
    Told g (g.refresh d policy visible adjustment).events
      (g.refresh d policy visible adjustment).result.group := by
  have flip := g.told_flipHidden d visible
  simp only [refresh, Emits.events_bind, events_ask, result_ask, events_report, Emits.events_pure,
    Emits.result_bind, Emits.result_pure, List.append_nil, List.nil_append]
  rw [← g.header_flipHidden d visible]
  exact flip.trans (.broadcast (isVisit_refreshVisit _ _ visible adjustment) policy _ rfl rfl rfl
    rfl Recording.utf8_empty_le)

end Broadcasts

end Members

end Group

end Wallpaper
