import Wallpaper.Proofs.Group.Events

/-! Runs of a host. Whoever owns groups creates them, makes requests of them in any order, and
changes in between what is its own: the display, the policy, and single members behind the back of
their group. A run gives the host after it, and emits what the groups did on the way. -/
namespace Wallpaper

inductive Request (σ : Type) where
  | add (handle : σ)
  | remove (id : SurfaceId)
  | exit
  | hide (hidden : Bool) (reason : String)
  | send (command : Command) (synchronous : Bool)
  | reposition (size : Size) (synchronous : Bool)
  | setVisible (visible : Bool)
  | restack (visible : Bool) (adjustment : Int32)
  | animate (animation : Animation)
  | awaitsDrawing
  /-- Changes the member with this id in place. -/
  | edit (id : SurfaceId) (change : σ → σ)

def Request.edit? : Request σ → Option (SurfaceId × (σ → σ))
  | .edit id change => some (id, change)
  | _ => none

inductive Act (σ δ π : Type) where
  | create (display : DisplayId) (token : TokenId)
  /-- The index names the group by its place in the order of creation. -/
  | request (index : Nat) (request : Request σ)
  | tend (change : δ → δ)
  | govern (change : π → π)

structure Served (σ δ π : Type) extends Refreshed σ δ π where
  returned : List σ

/-- Groups in the order of their creation, with what they share, and the handles that came back
from them. -/
structure Host (σ δ π : Type) where
  groups : List (Group σ)
  display : δ
  policy : π
  returned : List σ

theorem Group.map_key_set {groups : List (Group σ)} {index : Nat} {g now : Group σ}
    (here : groups[index]? = some g) (same : now.key = g.key) :
    (groups.set index now).map Group.key = groups.map Group.key := by
  obtain ⟨inside, rfl⟩ := List.getElem?_eq_some_iff.1 here
  rw [List.map_set, same, ← List.map_set, List.set_getElem_self]

section Running

variable {σ δ π : Type} [Surface σ] [Display δ] [ScrollPolicy π σ]

def Group.serve (g : Group σ) (display : δ) (policy : π) :
    Request σ → Emits Effect (Served σ δ π)
  | .add handle => do
    let (refused?, group) ← g.add handle
    return { group, display, policy, returned := (refused?.map Refused.handle).toList }
  | .remove id => do
    let (handle?, group) ← g.remove id
    return { group, display, policy, returned := handle?.toList }
  | .exit => do
    let (group, display) ← g.exit display
    return { group, display, policy, returned := [] }
  | .hide hidden reason => do
    return { group := ← g.hide hidden reason, display, policy, returned := [] }
  | .send command synchronous => do
    return { group := ← g.send command synchronous, display, policy, returned := [] }
  | .reposition size synchronous => do
    let (group, policy) ← g.reposition policy size synchronous
    return { group, display, policy, returned := [] }
  | .setVisible visible => do
    return { ← g.setVisible display policy visible with returned := [] }
  | .restack visible adjustment => do
    return { ← g.restack display policy visible adjustment with returned := [] }
  | .animate animation => do
    return { group := ← g.animate animation, display, policy, returned := [] }
  | .awaitsDrawing => do
    let _ ← g.awaitsDrawing
    return { group := g, display, policy, returned := [] }
  | .edit id change => pure { group := g.modify id change, display, policy, returned := [] }

theorem Group.key_add (g : Group σ) (handle : σ) : (g.add handle).result.2.key = g.key := by
  unfold add
  split <;> rfl

theorem Group.key_remove (g : Group σ) (id : SurfaceId) : (g.remove id).result.2.key = g.key := by
  unfold remove
  split <;> rfl

omit [Surface σ] in
theorem Group.key_exit (g : Group σ) (display : δ) : (g.exit display).result.1.key = g.key := by
  unfold exit
  split <;> rfl

theorem Group.key_refresh (g : Group σ) (display : δ) (policy : π) (visible : Bool)
    (adjustment : Option Int32) :
    (g.refresh display policy visible adjustment).result.group.key = g.key := by
  unfold refresh flipHidden
  split <;> rfl

theorem Group.key_serve (g : Group σ) (display : δ) (policy : π) (request : Request σ) :
    (g.serve display policy request).result.group.key = g.key := by
  cases request with
  | add handle => exact g.key_add handle
  | remove id => exact g.key_remove id
  | exit => exact g.key_exit display
  | setVisible visible => exact g.key_refresh display policy visible none
  | restack visible adjustment => exact g.key_refresh display policy visible (some adjustment)
  | _ => rfl

namespace Host

def start (display : δ) (policy : π) : Host σ δ π := ⟨[], display, policy, []⟩

/-- A request to a group that does not exist is not made. -/
def act (h : Host σ δ π) : Act σ δ π → Emits Effect (Host σ δ π)
  | .create display token => do
    let (group, shown) ← Group.create display token h.display
    return { h with groups := h.groups ++ [group], display := shown }
  | .request index request =>
    match h.groups[index]? with
    | none => pure h
    | some g => do
      let served ← g.serve h.display h.policy request
      return {
        groups := h.groups.set index served.group
        display := served.display
        policy := served.policy
        returned := h.returned ++ served.returned }
  | .tend change => pure { h with display := change h.display }
  | .govern change => pure { h with policy := change h.policy }

def run (h : Host σ δ π) : List (Act σ δ π) → Emits Effect (Host σ δ π)
  | [] => pure h
  | a :: rest => do
    let h ← h.act a
    h.run rest

def created (acts : List (Act σ δ π)) : List (DisplayId × TokenId) := acts.filterMap fun
  | .create display token => some (display, token)
  | _ => none

omit [Surface σ] [Display δ] [ScrollPolicy π σ] in
theorem created_cons (a : Act σ δ π) (rest : List (Act σ δ π)) :
    created (a :: rest) = created [a] ++ created rest := by
  simp only [created, ← List.filterMap_append, List.singleton_append]

def keys (h : Host σ δ π) : List (DisplayId × TokenId) := h.groups.map Group.key

/-- Groups come in the order of their creation, and none of them goes. -/
theorem keys_act (h : Host σ δ π) (a : Act σ δ π) :
    (h.act a).result.keys = h.keys ++ created [a] := by
  cases a with
  | create display token => simp [act, keys, created, Group.create, Group.key]
  | request index request =>
    cases here : h.groups[index]? with
    | none => simp [act, here, created]
    | some g =>
      simp only [act, here, Emits.result_bind, Emits.result_pure, keys]
      rw [Group.map_key_set here (g.key_serve h.display h.policy request)]
      exact (List.append_nil _).symm
  | tend change => simp [act, keys, created]
  | govern change => simp [act, keys, created]

theorem keys_run (h : Host σ δ π) (acts : List (Act σ δ π)) :
    (h.run acts).result.keys = h.keys ++ created acts := by
  induction acts generalizing h with
  | nil => simp [run, created]
  | cons a rest ih =>
    rw [run, Emits.result_bind, ih, keys_act, List.append_assoc, ← created_cons]

end Host

end Running

end Wallpaper
