import Wallpaper.Host.Asking

/-! Groups: the wallpaper surfaces of one display, driven as a unit. Members stand in the order
in which they were added; whatever visits them begins with the newest. An operation does nothing
by itself: it gives the group after it, and emits its calls to the host and its events. -/
namespace Wallpaper

inductive Effect where
  | call (call : Call)
  | event (event : Event)
deriving DecidableEq

structure Group (σ : Type) where
  display : DisplayId
  token : TokenId
  members : List σ
  hidden : Bool
  /-- Once set, it stays; the group takes no more members. -/
  exiting : Bool
  /-- The number of the next operation that is reported. -/
  seq : UInt64

namespace Group

variable {σ δ π s : Type}

def ask (x : Emits Call α) : Emits Effect α := x.relabel .call

def report (header : Header) (detail : Detail) : Emits Effect Unit :=
  Emits.emit (.event ⟨header, detail⟩)

/-- Visits members from the newest to the oldest. What one visit leaves is handed to the next,
and every member keeps its place. -/
def sweep (visit : s → σ → Emits Effect (σ × s)) (state : s) :
    List σ → Emits Effect (List σ × s)
  | [] => pure ([], state)
  | member :: newer => do
    let (newer, state) ← sweep visit state newer
    let (member, state) ← visit state member
    return (member :: newer, state)

/-- Whatever a visit leaves as it is in each member stands where it stood. -/
theorem map_sweep (f : σ → α) (visit : s → σ → Emits Effect (σ × s))
    (keeps : ∀ state member, f (visit state member).result.1 = f member) (state : s)
    (members : List σ) : (sweep visit state members).result.1.map f = members.map f := by
  induction members with
  | nil => rfl
  | cons member newer ih => simp [sweep, ih, keeps]

@[simp] theorem length_sweep (visit : s → σ → Emits Effect (σ × s)) (state : s)
    (members : List σ) : (sweep visit state members).result.1.length = members.length := by
  have same := map_sweep (fun _ => ()) visit (fun _ _ => rfl) state members
  simpa using congrArg List.length same

def header (g : Group σ) : Header := ⟨g.display, g.token, g.seq⟩

/-- The count of members as it stands in events. -/
def reportedCount (g : Group σ) : UInt32 := UInt32.ofNat (min g.members.length (UInt32.size - 1))

def create [Display δ] (display : DisplayId) (token : TokenId) (d : δ) :
    Emits Effect (Group σ × δ) := do
  let d ← ask (Ask.attach token d)
  return (⟨display, token, [], false, false, 0⟩, d)

section Members

variable [Surface σ]

def ids (g : Group σ) : List SurfaceId := g.members.map Surface.id

def contains (g : Group σ) (id : SurfaceId) : Bool := g.members.any (Surface.id · == id)

/-- The oldest member with this id. -/
def find? (g : Group σ) (id : SurfaceId) : Option σ := g.members.find? (Surface.id · == id)

/-- Changes the oldest member with this id, as its owner may do at any time. -/
def modify (g : Group σ) (id : SurfaceId) (change : σ → σ) : Group σ :=
  { g with members := first g.members }
where
  first : List σ → List σ
    | [] => []
    | member :: newer =>
      if Surface.id member == id then change member :: newer else member :: first newer

end Members

end Group

end Wallpaper
