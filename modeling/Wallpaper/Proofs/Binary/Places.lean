import Wallpaper.Proofs.Binary.Unit

/-! Where the results of operations lie on the number line. A sum or a difference lies at the place
nearest to the exact one: it is moved no further than to any other number, so what needs no rounding
is exact, and all else is off by a small part of itself. A product with zero lies at zero, and one
with one is the other factor. -/
namespace Wallpaper.Binary

variable {f : Format}

/-- The place nearest to an exact one, in units. -/
def nearest (f : Format) (units : Int) : Int :=
  signed (units < 0) (min (roundQuotient f.precision units.natAbs 1) f.limit)

theorem limit_eq (f : Format) : f.limit = 2 ^ (1 <<< f.exponentBits + f.precision - 3) :=
  Nat.one_shiftLeft _

theorem roundQuotient_le_limit {n : Nat} (le : n ≤ f.limit) :
    roundQuotient f.precision n 1 ≤ f.limit := by
  have fits : Fits f.precision f.limit := limit_eq f ▸ fits_two_pow f.precision_pos _
  exact roundQuotient_le Nat.one_pos fits (by omega)

theorem place?_ofRatio (negative : Bool) (num den : Nat) :
    (ofRatio f negative num den).place? =
      some (signed negative (min (roundQuotient f.precision num den) f.limit)) := by
  simp only [ofRatio]
  split
  · next lt => rw [place?_finite, Nat.min_eq_left (Nat.le_of_lt lt)]
  · next not_lt => rw [place?_infinity, Nat.min_eq_right (Nat.not_lt.1 not_lt)]

theorem signed_zero (negative : Bool) : signed negative 0 = 0 := by
  cases negative <;> rfl

theorem signed_not (negative : Bool) (n : Nat) : signed (!negative) n = -signed negative n := by
  cases negative <;> simp

theorem place?_add (s t : Bool) (m n : Magnitude f) :
    (finite s m + finite t n).place? =
      some (nearest f (signed s m.units + signed t n.units)) := by
  show (add (finite s m) (finite t n)).place? = _
  simp only [add, place?_ofRatio, nearest]
  -- A sum of zero has its sign from the terms, and lies at zero with either sign.
  by_cases none : signed s m.units + signed t n.units = 0
  · simp [none, roundQuotient_zero f.precision_pos, signed_zero]
  · rw [if_neg none]

theorem place?_sub (s t : Bool) (m n : Magnitude f) :
    (finite s m - finite t n).place? =
      some (nearest f (signed s m.units - signed t n.units)) := by
  have negated := place?_add s (!t) m n
  rwa [signed_not, ← Int.sub_eq_add_neg] at negated

/-- No number is nearer to an exact place. -/
theorem nearest_near (s : Bool) (m : Magnitude f) (units : Int) :
    (nearest f units - units).natAbs ≤ (signed s m.units - units).natAbs := by
  have near := round_near (n := units.natAbs) f.precision_pos m.fits
  have within := m.lt_limit
  have top := @roundQuotient_le_limit f units.natAbs
  simp only [nearest]
  by_cases back : units < 0
  · cases s <;> simp only [back, decide_true, signed_true, signed_false] <;> omega
  · cases s <;> simp only [back, decide_false, signed_true, signed_false] <;> omega

theorem nearest_signed (s : Bool) (m : Magnitude f) :
    nearest f (signed s m.units) = signed s m.units := by
  have near := nearest_near s m (signed s m.units)
  omega

theorem two_pow_mul_nearest_near {units : Int} (within : (nearest f units).natAbs < f.limit) :
    2 ^ f.precision * (nearest f units - units).natAbs ≤ units.natAbs := by
  have near := two_pow_mul_round_near f.precision_pos units.natAbs
  have same : (nearest f units - units).natAbs =
      ((roundQuotient f.precision units.natAbs 1 : Nat) - units.natAbs : Int).natAbs := by
    simp only [nearest] at within ⊢
    by_cases back : units < 0
    · simp only [back, decide_true, signed_true] at within ⊢
      omega
    · simp only [back, decide_false, signed_false] at within ⊢
      omega
  rwa [same]

/-! ### Zero and one -/

theorem exists_of_place?_zero {x : Binary f} (place : x.place? = some 0) :
    ∃ negative zero, x = finite negative zero ∧ zero.units = 0 := by
  have beyond : 0 < f.limit := limit_eq f ▸ Nat.two_pow_pos _
  cases x with
  | nan => cases place
  | infinity negative =>
    have units := Option.some.inj place
    cases negative <;> simp only [signed_false, signed_true] at units <;> omega
  | finite negative size =>
    have units := congrArg Int.natAbs (Option.some.inj place)
    rw [natAbs_signed] at units
    exact ⟨negative, size, rfl, units⟩

theorem place?_mul_zero (s : Bool) (m : Magnitude f) {x : Binary f} (place : x.place? = some 0) :
    (finite s m * x).place? = some 0 := by
  obtain ⟨t, zero, rfl, units⟩ := exists_of_place?_zero place
  show (mul (finite s m) (finite t zero)).place? = _
  simp [mul, units, place?_ofRatio, roundQuotient_zero f.precision_pos (one_pos f), signed_zero]

theorem finite_mul_one (s : Bool) (m : Magnitude f) {one : Magnitude f}
    (units : one.units = f.one) :
    finite s m * finite false one = finite s m := by
  have exactly := roundQuotient_of_fits f.precision_pos (one_pos f) m.fits
  obtain ⟨product, same, product_units⟩ := exists_ofRatio (s != false) (exactly ▸ m.lt_limit)
  show mul (finite s m) (finite false one) = _
  rw [mul, units, same, Magnitude.eq_of_units (product_units.trans exactly), Bool.bne_false]

theorem place?_convert_zero (g : Format) {x : Binary f} (place : x.place? = some 0) :
    (x.convert g).place? = some 0 := by
  obtain ⟨s, zero, rfl, units⟩ := exists_of_place?_zero place
  simp [convert, units, place?_ofRatio, roundQuotient_zero g.precision_pos (one_pos f), signed_zero]

theorem exists_convert_one : ∃ one : Magnitude .single,
    (1 : Double).convert .single = finite false one ∧ one.units = Format.single.one := by
  obtain ⟨one, one_eq, one_units⟩ := exists_ofNat (n := 1) (by decide)
  have fits : Fits 24 (1 * Format.single.one) := fits_mul_one (f := .single) (by decide)
  have exactly := roundQuotient_of_fits (by decide) (one_pos .double) fits
  have lt : 1 * Format.single.one < Format.single.limit := by decide +kernel
  obtain ⟨whole, same, units⟩ := exists_ofRatio (f := .single) false (exactly ▸ lt)
  refine ⟨whole, ?_, units.trans (exactly.trans (Nat.one_mul _))⟩
  show convert .single (ofNat 1) = _
  rw [one_eq, convert, one_units, Nat.mul_right_comm]
  exact same

end Wallpaper.Binary
