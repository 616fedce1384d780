import Wallpaper.Binary.Basic

/-! Numbers between zero and one, where positions and fractions of a running time live. Whatever
is brought there is a number: what is none becomes zero. -/
namespace Wallpaper.Binary

variable {f : Format}

def InUnit (x : Binary f) : Prop := ∃ units, x.place? = some units ∧ 0 ≤ units ∧ units ≤ f.one

/-- The nearest number between zero and one; zero for what is no number. -/
def toUnit (x : Binary f) : Binary f :=
  if x.isNan then 0
  else if x.lessThan 0 then 0
  else if lessThan 1 x then 1
  else x

theorem place?_zero : (0 : Double).place? = some 0 := by decide +kernel

theorem place?_one : (1 : Double).place? = some (Format.double.one : Int) := by decide +kernel

theorem inUnit_zero : InUnit (0 : Double) := ⟨0, place?_zero, by decide, Int.natCast_nonneg _⟩

theorem inUnit_one : InUnit (1 : Double) :=
  ⟨_, place?_one, Int.natCast_nonneg _, Int.le_refl _⟩

theorem exists_place? {x : Binary f} (number : x.isNan = false) :
    ∃ units, x.place? = some units := by
  cases x with
  | nan => cases number
  | infinity => exact ⟨_, rfl⟩
  | finite => exact ⟨_, rfl⟩

theorem inUnit_toUnit (x : Double) : x.toUnit.InUnit := by
  unfold toUnit
  split
  · exact inUnit_zero
  next number =>
    obtain ⟨units, place⟩ := exists_place? (Bool.not_eq_true _ ▸ number)
    split
    · exact inUnit_zero
    next not_below =>
      split
      · exact inUnit_one
      next not_above =>
        simp only [lessThan, place, place?_zero, decide_eq_true_eq] at not_below
        simp only [lessThan, place, place?_one, decide_eq_true_eq] at not_above
        exact ⟨units, place, Int.not_lt.1 not_below, Int.not_lt.1 not_above⟩

end Wallpaper.Binary
