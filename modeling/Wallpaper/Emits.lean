/-! Computations that emit something on the way. Nothing is done here: a computation is its
result together with everything emitted, in order, and whoever runs it decides what to do with
that. -/
namespace Wallpaper

structure Emits (ε α : Type) where
  result : α
  emitted : List ε

namespace Emits

def emit (e : ε) : Emits ε Unit := ⟨(), [e]⟩

def relabel (f : ε → η) (x : Emits ε α) : Emits η α := ⟨x.result, x.emitted.map f⟩

instance : Monad (Emits ε) where
  pure a := ⟨a, []⟩
  bind first next :=
    let second := next first.result
    ⟨second.result, first.emitted ++ second.emitted⟩

theorem ext {x y : Emits ε α} (result : x.result = y.result) (emitted : x.emitted = y.emitted) :
    x = y := by
  cases x
  cases y
  cases result
  cases emitted
  rfl

@[simp] theorem result_emit (e : ε) : (emit e).result = () := rfl

@[simp] theorem emitted_emit (e : ε) : (emit e).emitted = [e] := rfl

@[simp] theorem result_relabel (f : ε → η) (x : Emits ε α) :
    (x.relabel f).result = x.result := rfl

@[simp] theorem emitted_relabel (f : ε → η) (x : Emits ε α) :
    (x.relabel f).emitted = x.emitted.map f := rfl

@[simp] theorem result_pure (a : α) : (pure a : Emits ε α).result = a := rfl

@[simp] theorem emitted_pure (a : α) : (pure a : Emits ε α).emitted = [] := rfl

@[simp] theorem result_bind (first : Emits ε α) (next : α → Emits ε β) :
    (first >>= next).result = (next first.result).result := rfl

@[simp] theorem emitted_bind (first : Emits ε α) (next : α → Emits ε β) :
    (first >>= next).emitted = first.emitted ++ (next first.result).emitted := rfl

instance : LawfulMonad (Emits ε) :=
  LawfulMonad.mk' (Emits ε)
    (fun x => by cases x; exact congrArg (Emits.mk _) (List.append_nil _))
    (fun _ _ => rfl)
    (fun x f g => congrArg (Emits.mk _) (List.append_assoc ..))

@[simp] theorem result_map (f : α → β) (x : Emits ε α) : (f <$> x).result = f x.result := rfl

@[simp] theorem emitted_map (f : α → β) (x : Emits ε α) : (f <$> x).emitted = x.emitted :=
  List.append_nil _

end Emits

end Wallpaper
