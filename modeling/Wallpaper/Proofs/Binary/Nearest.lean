import Mathlib.Tactic.Ring
import Wallpaper.Binary.Rounding

/-! How rounding moves a quotient. It keeps a quotient on its side of every magnitude that fits, so
it keeps the order of quotients and leaves alone what fits already; and where all significant bits
are there, it moves a quotient by a small part of it only. All is about whole numbers of units. -/
namespace Wallpaper.Binary

theorem spacing_eq (precision n : Nat) : spacing precision n = 2 ^ (n.log2 + 1 - precision) := by
  rw [spacing, Nat.one_shiftLeft]

theorem spacing_pos (precision n : Nat) : 0 < spacing precision n :=
  spacing_eq precision n ▸ Nat.two_pow_pos _

theorem log2_le_log2 {m n : Nat} (le : m ≤ n) : m.log2 ≤ n.log2 := by
  rcases Nat.eq_zero_or_pos m with rfl | positive
  · simp
  · have below := Nat.log2_self_le (Nat.ne_of_gt positive)
    exact (Nat.le_log2 (by omega)).2 (by omega)

theorem spacing_dvd_spacing (precision : Nat) {m n : Nat} (le : m ≤ n) :
    spacing precision m ∣ spacing precision n := by
  have logs := log2_le_log2 le
  rw [spacing_eq, spacing_eq]
  exact Nat.pow_dvd_pow 2 (by omega)

theorem fits_two_pow {precision : Nat} (significant : 0 < precision) (e : Nat) :
    Fits precision (2 ^ e) := by
  rw [Fits, spacing_eq, Nat.log2_two_pow]
  exact Nat.pow_dvd_pow 2 (by omega)

/-- Before a power of two there is a gap without fitting magnitudes. -/
theorem add_two_pow_le {precision n e : Nat} (significant : 0 < precision) (fits : Fits precision n)
    (lt : n < 2 ^ (e + precision)) : n + 2 ^ e ≤ 2 ^ (e + precision) := by
  rcases Nat.eq_zero_or_pos n with rfl | positive
  · rw [Nat.zero_add]
    exact Nat.pow_le_pow_right (by decide) (Nat.le_add_right e precision)
  have log_lt := (Nat.log2_lt (Nat.ne_of_gt positive)).2 lt
  by_cases top : n.log2 + 1 = e + precision
  · rw [Fits, spacing_eq, top, Nat.add_sub_cancel] at fits
    obtain ⟨c, rfl⟩ := fits
    rw [Nat.pow_add] at lt ⊢
    have counted := Nat.lt_of_mul_lt_mul_left lt
    exact Nat.mul_le_mul_left (2 ^ e) counted
  · have below : n < 2 ^ (e + precision - 1) :=
      Nat.lt_of_lt_of_le Nat.lt_log2_self (Nat.pow_le_pow_right (by decide) (by omega))
    have gap : 2 ^ e ≤ 2 ^ (e + precision - 1) := Nat.pow_le_pow_right (by decide) (by omega)
    have twice : 2 ^ (e + precision) = 2 * 2 ^ (e + precision - 1) := by
      rw [← Nat.pow_succ']
      congr 1
      omega
    omega

/-! ### Whole numbers -/

theorem div_le_nearestEven (num den : Nat) : num / den ≤ nearestEven num den := by
  simp only [nearestEven]
  split <;> omega

theorem nearestEven_mul (c : Nat) {den : Nat} (positive : 0 < den) :
    nearestEven (c * den) den = c := by
  simp [nearestEven, Nat.mul_div_cancel c positive, positive]

theorem nearestEven_mono {num num' : Nat} (den : Nat) (le : num ≤ num') :
    nearestEven num den ≤ nearestEven num' den := by
  rcases Nat.lt_or_eq_of_le (Nat.div_le_div_right (c := den) le) with less | same
  · have below := nearestEven_le num den
    have above := div_le_nearestEven num' den
    omega
  · have whole := Nat.div_add_mod num den
    have whole' := Nat.div_add_mod num' den
    have rests : num % den ≤ num' % den := by
      rw [← same] at whole'
      omega
    simp only [nearestEven, same]
    split <;> split <;> omega

/-- No more than half a step is taken away. -/
theorem le_nearestEven (num : Nat) {den : Nat} (positive : 0 < den) :
    2 * num ≤ (2 * nearestEven num den + 1) * den := by
  have whole := Nat.div_add_mod num den
  have rest := Nat.mod_lt num positive
  have below : (2 * (num / den) + 1) * den = 2 * (den * (num / den)) + den := by ring
  have above : (2 * (num / den + 1) + 1) * den = 2 * (den * (num / den)) + 3 * den := by ring
  simp only [nearestEven]
  split
  · rw [below]
    omega
  · rw [above]
    omega

/-- No other whole number of steps is nearer. -/
theorem nearestEven_near (num : Nat) {den : Nat} (positive : 0 < den) (steps : Nat) :
    ((nearestEven num den * den : Nat) - num : Int).natAbs ≤
      ((steps * den : Nat) - num : Int).natAbs := by
  have whole := Nat.div_add_mod num den
  have rest := Nat.mod_lt num positive
  rw [Nat.mul_comm den] at whole
  have above : (num / den + 1) * den = num / den * den + den := Nat.succ_mul ..
  have sides : steps * den ≤ num / den * den ∨ num / den * den + den ≤ steps * den := by
    rcases Nat.lt_or_ge (num / den) steps with more | less
    · exact .inr (above ▸ Nat.mul_le_mul_right den more)
    · exact .inl (Nat.mul_le_mul_right den less)
  simp only [nearestEven]
  split
  · omega
  · rw [above]
    omega

theorem two_mul_nearestEven_near (num : Nat) {den : Nat} (positive : 0 < den) :
    2 * ((nearestEven num den * den : Nat) - num : Int).natAbs ≤ den := by
  have whole := Nat.div_add_mod num den
  rw [Nat.mul_comm den] at whole
  have rest := Nat.mod_lt num positive
  have above : (num / den + 1) * den = num / den * den + den := Nat.succ_mul ..
  have before := nearestEven_near num positive (num / den)
  have behind := nearestEven_near num positive (num / den + 1)
  rw [above] at behind
  omega

/-! ### Fitting magnitudes -/

section

variable {precision num den : Nat}

theorem roundQuotient_le {b : Nat} (positive : 0 < den) (fits : Fits precision b)
    (le : num ≤ b * den) : roundQuotient precision num den ≤ b := by
  have below : num / den ≤ b := Nat.div_le_of_le_mul (by rwa [Nat.mul_comm] at le)
  simp only [roundQuotient]
  generalize step_eq : spacing precision (num / den) = step
  have step_pos : 0 < step := step_eq ▸ spacing_pos _ _
  obtain ⟨c, rfl⟩ : step ∣ b := step_eq ▸ Nat.dvd_trans (spacing_dvd_spacing precision below) fits
  have counted : nearestEven num (den * step) ≤ c := by
    rw [← nearestEven_mul c (Nat.mul_pos positive step_pos)]
    refine nearestEven_mono _ (Nat.le_trans le (Nat.le_of_eq ?_))
    ring
  rw [Nat.mul_comm step c]
  exact Nat.mul_le_mul_right step counted

/-- Between a fitting magnitude and a greater number there is a whole number of the greater one's
steps. -/
theorem exists_steps {a n : Nat} (significant : 0 < precision) (fits : Fits precision a)
    (le : a ≤ n) : ∃ c, a ≤ c * spacing precision n ∧ c * spacing precision n ≤ n := by
  rcases Nat.eq_zero_or_pos n with rfl | positive
  · exact ⟨0, by omega⟩
  rcases Nat.lt_or_eq_of_le (log2_le_log2 le) with less | same
  · have a_lt := Nat.lt_log2_self (n := a)
    have top := Nat.log2_self_le (Nat.ne_of_gt positive)
    have powers : 2 ^ (a.log2 + 1) ≤ 2 ^ n.log2 := Nat.pow_le_pow_right (by decide) less
    have aligned : spacing precision n ∣ 2 ^ n.log2 := by
      rw [spacing_eq]
      exact Nat.pow_dvd_pow 2 (by omega)
    obtain ⟨c, steps⟩ := aligned
    rw [Nat.mul_comm] at steps
    exact ⟨c, by omega⟩
  · have steps : spacing precision n ∣ a := by
      rw [spacing_eq, ← same, ← spacing_eq]
      exact fits
    obtain ⟨c, steps⟩ := steps
    rw [Nat.mul_comm] at steps
    exact ⟨c, by omega⟩

theorem le_roundQuotient {a : Nat} (significant : 0 < precision) (positive : 0 < den)
    (fits : Fits precision a) (le : a * den ≤ num) : a ≤ roundQuotient precision num den := by
  have above : a ≤ num / den := (Nat.le_div_iff_mul_le positive).2 le
  obtain ⟨c, least, greatest⟩ := exists_steps significant fits above
  simp only [roundQuotient]
  generalize step_eq : spacing precision (num / den) = step at least greatest
  have step_pos : 0 < step := step_eq ▸ spacing_pos _ _
  have counted : c ≤ nearestEven num (den * step) := by
    rw [← nearestEven_mul c (Nat.mul_pos positive step_pos)]
    refine nearestEven_mono _ (Nat.le_trans (Nat.le_of_eq ?_)
      ((Nat.le_div_iff_mul_le positive).1 greatest))
    ring
  exact Nat.le_trans least (Nat.mul_le_mul_right step counted)

theorem roundQuotient_of_fits {n : Nat} (significant : 0 < precision) (positive : 0 < den)
    (fits : Fits precision n) : roundQuotient precision (n * den) den = n :=
  Nat.le_antisymm (roundQuotient_le positive fits (Nat.le_refl _))
    (le_roundQuotient significant positive fits (Nat.le_refl _))

theorem roundQuotient_zero (significant : 0 < precision) (positive : 0 < den) :
    roundQuotient precision 0 den = 0 := by
  have fits : Fits precision 0 := Nat.dvd_zero _
  simpa using roundQuotient_of_fits significant positive fits

theorem roundQuotient_mono {num' : Nat} (significant : 0 < precision) (positive : 0 < den)
    (le : num ≤ num') : roundQuotient precision num den ≤ roundQuotient precision num' den := by
  have quotients : num / den ≤ num' / den := Nat.div_le_div_right le
  rcases Nat.lt_or_eq_of_le (log2_le_log2 quotients) with less | same
  -- A power of two stands between the quotients, and neither is rounded across it.
  · have quotient_pos : num' / den ≠ 0 := by
      intro zero
      rw [zero, Nat.log2_zero] at less
      omega
    have above := Nat.log2_self_le quotient_pos
    have below : num / den < 2 ^ (num' / den).log2 :=
      Nat.lt_of_lt_of_le Nat.lt_log2_self (Nat.pow_le_pow_right (by decide) less)
    have fits := fits_two_pow significant (num' / den).log2
    calc roundQuotient precision num den ≤ 2 ^ (num' / den).log2 :=
          roundQuotient_le positive fits (Nat.le_of_lt ((Nat.div_lt_iff_lt_mul positive).1 below))
      _ ≤ roundQuotient precision num' den :=
          le_roundQuotient significant positive fits ((Nat.le_div_iff_mul_le positive).1 above)
  · have steps : spacing precision (num / den) = spacing precision (num' / den) := by
      rw [spacing_eq, spacing_eq, same]
    simp only [roundQuotient, steps]
    exact Nat.mul_le_mul_right _ (nearestEven_mono _ le)

/-- No other fitting magnitude is nearer. -/
theorem round_near {n c : Nat} (significant : 0 < precision) (fits : Fits precision c) :
    ((roundQuotient precision n 1 : Nat) - n : Int).natAbs ≤ (c - n : Int).natAbs := by
  have nearer : ∃ steps, ((steps * spacing precision n : Nat) - n : Int).natAbs ≤
      (c - n : Int).natAbs := by
    rcases Nat.le_total c n with below | above
    · obtain ⟨steps, least, greatest⟩ := exists_steps significant fits below
      exact ⟨steps, by omega⟩
    · obtain ⟨steps, rfl⟩ := Nat.dvd_trans (spacing_dvd_spacing precision above) fits
      exact ⟨steps, by rw [Nat.mul_comm]⟩
  obtain ⟨steps, nearer⟩ := nearer
  simp only [roundQuotient, Nat.div_one, Nat.one_mul]
  exact Nat.le_trans (nearestEven_near n (spacing_pos precision n) steps) nearer

theorem two_pow_mul_spacing_le {n : Nat} (significant : 0 < precision)
    (normal : 2 ^ (precision - 1) ≤ n) : 2 ^ (precision - 1) * spacing precision n ≤ n := by
  have nonzero : n ≠ 0 := Nat.ne_of_gt (Nat.lt_of_lt_of_le (Nat.two_pow_pos _) normal)
  have bits := (Nat.le_log2 nonzero).2 normal
  rw [spacing_eq, ← Nat.pow_add]
  refine Nat.le_trans (Nat.le_of_eq ?_) (Nat.log2_self_le nonzero)
  congr 1
  omega

/-- Where all significant bits are there, what is taken away is to the whole quotient at most as
one is to the count of magnitudes that these bits tell apart. -/
theorem le_roundQuotient_add (significant : 0 < precision) (positive : 0 < den)
    (normal : 2 ^ (precision - 1) ≤ num / den) :
    2 ^ precision * num ≤ 2 ^ precision * (roundQuotient precision num den * den) + num := by
  have step_le := two_pow_mul_spacing_le significant normal
  simp only [roundQuotient]
  generalize step_eq : spacing precision (num / den) = step at step_le
  have step_pos : 0 < step := step_eq ▸ spacing_pos _ _
  have near := le_nearestEven num (Nat.mul_pos positive step_pos)
  generalize nearestEven num (den * step) = count at near
  have within := (Nat.le_div_iff_mul_le positive).1 step_le
  have twice : 2 ^ precision = 2 * 2 ^ (precision - 1) := by
    rw [← Nat.pow_succ', Nat.succ_eq_add_one, Nat.sub_add_cancel significant]
  calc 2 ^ precision * num = 2 ^ (precision - 1) * (2 * num) := by rw [twice]; ring
    _ ≤ 2 ^ (precision - 1) * ((2 * count + 1) * (den * step)) := Nat.mul_le_mul_left _ near
    _ = 2 ^ precision * (count * step * den) + 2 ^ (precision - 1) * step * den := by
        rw [twice]; ring
    _ ≤ 2 ^ precision * (count * step * den) + num := Nat.add_le_add_left within _

/-- Rounding moves a magnitude by no more than this part of it, to either side. -/
theorem two_pow_mul_round_near (significant : 0 < precision) (n : Nat) :
    2 ^ precision * ((roundQuotient precision n 1 : Nat) - n : Int).natAbs ≤ n := by
  by_cases normal : 2 ^ (precision - 1) ≤ n
  · have half := two_mul_nearestEven_near n (spacing_pos precision n)
    simp only [roundQuotient, Nat.div_one, Nat.one_mul]
    rw [← Nat.two_pow_pred_mul_two significant, Nat.mul_assoc]
    exact Nat.le_trans (Nat.mul_le_mul_left _ half) (two_pow_mul_spacing_le significant normal)
  -- Below, each magnitude fits.
  · have few : n.log2 + 1 - precision = 0 := by
      rcases Nat.eq_zero_or_pos n with rfl | positive
      · rw [Nat.log2_zero]
        omega
      · have := (Nat.log2_lt (Nat.ne_of_gt positive)).2 (Nat.not_le.1 normal)
        omega
    have fits : Fits precision n := by
      rw [Fits, spacing_eq, few]
      exact Nat.one_dvd n
    have exactly := roundQuotient_of_fits significant Nat.one_pos fits
    rw [Nat.mul_one] at exactly
    simp [exactly]

end

end Wallpaper.Binary
