/-! Magnitudes with a bounded count of significant bits, and the nearest such magnitude to a
quotient. All is in whole units of the least positive magnitude, so nothing here is inexact. -/
namespace Wallpaper.Binary

/-- The distance between neighbours at a magnitude: one unit as long as all bits of the
magnitude are significant, and twice as much for each bit beyond. -/
def spacing (precision n : Nat) : Nat := 1 <<< (n.log2 + 1 - precision)

/-- All bits beyond the significant ones are zero. -/
def Fits (precision n : Nat) : Prop := spacing precision n ∣ n

instance : Decidable (Fits precision n) := inferInstanceAs (Decidable (_ ∣ _))

/-- The whole number nearest to a quotient; a tie goes to the even one. -/
def nearestEven (num den : Nat) : Nat :=
  let below := num / den
  let rest := num % den
  if 2 * rest < den ∨ 2 * rest = den ∧ below % 2 = 0 then below else below + 1

/-- The fitting magnitude nearest to a quotient; a tie goes to the one whose last significant
bit is zero. -/
def roundQuotient (precision num den : Nat) : Nat :=
  let step := spacing precision (num / den)
  nearestEven num (den * step) * step

theorem nearestEven_le (num den : Nat) : nearestEven num den ≤ num / den + 1 := by
  simp only [nearestEven]
  split <;> omega

theorem lt_shiftLeft_mul_spacing (precision n : Nat) :
    n < 1 <<< precision * spacing precision n := by
  have top : n < 1 <<< (n.log2 + 1) := Nat.one_shiftLeft _ ▸ Nat.lt_log2_self
  have within : n.log2 + 1 ≤ precision + (n.log2 + 1 - precision) := by omega
  simp only [spacing, Nat.one_shiftLeft, ← Nat.pow_add] at top ⊢
  exact Nat.lt_of_lt_of_le top (Nat.pow_le_pow_right (by decide) within)

theorem fits_shiftLeft {precision : Nat} (positive : 0 < precision) {k : Nat}
    (bounded : k ≤ 1 <<< precision) (e : Nat) : Fits precision (k <<< e) := by
  simp only [Fits, spacing, Nat.shiftLeft_eq, Nat.one_mul] at bounded ⊢
  rcases Nat.eq_zero_or_pos k with rfl | nonzero
  · simp
  rcases Nat.lt_or_eq_of_le bounded with below | rfl
  · have value_pos := Nat.ne_of_gt (Nat.mul_pos nonzero (Nat.two_pow_pos e))
    have value_lt := Nat.mul_lt_mul_of_pos_right below (Nat.two_pow_pos e)
    rw [← Nat.pow_add] at value_lt
    have log_lt := (Nat.log2_lt value_pos).2 value_lt
    exact Nat.dvd_trans (Nat.pow_dvd_pow 2 (by omega)) (Nat.dvd_mul_left _ _)
  · rw [← Nat.pow_add, Nat.log2_two_pow]
    exact Nat.pow_dvd_pow 2 (by omega)

theorem fits_roundQuotient {precision : Nat} (positive : 0 < precision) (num den : Nat) :
    Fits precision (roundQuotient precision num den) := by
  simp only [roundQuotient]
  rw [spacing, Nat.one_shiftLeft, ← Nat.shiftLeft_eq]
  refine fits_shiftLeft positive ?_ _
  rw [← Nat.one_shiftLeft]
  refine Nat.le_trans (nearestEven_le _ _) ?_
  rw [← Nat.div_div_eq_div_mul]
  exact Nat.div_lt_of_lt_mul (Nat.mul_comm .. ▸ lt_shiftLeft_mul_spacing precision (num / den))

end Wallpaper.Binary
