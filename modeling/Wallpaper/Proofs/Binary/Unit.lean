import Wallpaper.Binary.Unit
import Wallpaper.Proofs.Binary.Nearest

/-! Numbers between zero and one as parts of other numbers. A part is no larger than the whole, even
when it is rounded. What is brought between zero and one goes to the nearer end, and a number is at
most a half away from the whole number next to it. -/
namespace Wallpaper.Binary

variable {f : Format}

def IsFinite : Binary f → Bool
  | finite .. => true
  | _ => false

theorem exists_of_isFinite {x : Binary f} (is_finite : x.IsFinite = true) :
    ∃ negative size, x = finite negative size := by
  cases x with
  | nan => cases is_finite
  | infinity => cases is_finite
  | finite negative size => exact ⟨negative, size, rfl⟩

theorem one_eq (f : Format) : f.one = 2 ^ (1 <<< (f.exponentBits - 1) + f.precision - 3) :=
  Nat.one_shiftLeft _

theorem one_pos (f : Format) : 0 < f.one := one_eq f ▸ Nat.two_pow_pos _

theorem fits_mul_one {n : Nat} (le : n ≤ 2 ^ f.precision) : Fits f.precision (n * f.one) := by
  rw [one_eq, ← Nat.shiftLeft_eq]
  exact fits_shiftLeft f.precision_pos (Nat.one_shiftLeft _ ▸ le) _

theorem mul_one_lt_limit {n : Nat} (le : n ≤ 2 ^ 53) :
    n * Format.double.one < Format.double.limit := by
  have top : 2 ^ 53 * Format.double.one < Format.double.limit := by decide +kernel
  exact Nat.lt_of_le_of_lt (Nat.mul_le_mul_right _ le) top

/-! ### Results of operations -/

theorem exists_ofRatio (negative : Bool) {num den : Nat}
    (lt : roundQuotient f.precision num den < f.limit) :
    ∃ size : Magnitude f, ofRatio f negative num den = finite negative size ∧
      size.units = roundQuotient f.precision num den :=
  ⟨⟨_, fits_roundQuotient f.precision_pos num den, lt⟩, dif_pos lt, rfl⟩

theorem Magnitude.eq_of_units {a b : Magnitude f} (same : a.units = b.units) : a = b := by
  cases a
  cases b
  cases same
  rfl

theorem ofRatio_units (negative : Bool) (size : Magnitude f) :
    ofRatio f negative size.units 1 = finite negative size := by
  have exactly : roundQuotient f.precision size.units 1 = size.units := by
    simpa using roundQuotient_of_fits f.precision_pos Nat.one_pos size.fits
  obtain ⟨result, same, units⟩ := exists_ofRatio negative (exactly ▸ size.lt_limit)
  rw [same, Magnitude.eq_of_units (units.trans exactly)]

theorem exists_ofNat {n : Nat} (le : n ≤ 2 ^ 53) :
    ∃ size : Magnitude .double, ofNat n = finite false size ∧ size.units = n * Format.double.one :=
  let size : Magnitude .double := ⟨_, fits_mul_one le, mul_one_lt_limit le⟩
  ⟨size, ofRatio_units false size, rfl⟩

@[simp] theorem signed_false (n : Nat) : signed false n = n := rfl

@[simp] theorem signed_true (n : Nat) : signed true n = -n := rfl

@[simp] theorem place?_infinity (negative : Bool) :
    (infinity negative : Binary f).place? = some (signed negative f.limit) := rfl

@[simp] theorem place?_finite (negative : Bool) (size : Magnitude f) :
    (finite negative size).place? = some (signed negative size.units) := rfl

theorem signed_of_back {negative : Bool} {n : Nat} (back : negative = false → n = 0) :
    signed negative n = -n := by
  cases negative with
  | false => simp [back rfl]
  | true => rfl

theorem natAbs_signed (negative : Bool) (n : Nat) : (signed negative n).natAbs = n := by
  cases negative <;> simp

theorem signed_lt_zero {negative : Bool} {n : Nat} :
    signed negative n < 0 ↔ (negative && n != 0) = true := by
  cases negative
  · simp
  · simp
    omega

/-- A difference from zero keeps the size; a zero is never negative. -/
theorem zero_sub_finite (negative : Bool) (size : Magnitude .double) :
    (0 : Double) - finite negative size = finite (!negative && size.units != 0) size := by
  obtain ⟨zero, zero_eq, zero_units⟩ := exists_ofNat (n := 0) (by decide)
  have total : signed false zero.units + signed (!negative) size.units =
      signed (!negative) size.units := by
    simp [zero_units]
  have sign : (if signed (!negative) size.units = 0 then false && !negative
      else decide (signed (!negative) size.units < 0)) = (!negative && size.units != 0) := by
    split
    · next none =>
      have units : size.units = 0 := by rw [← natAbs_signed (!negative) size.units, none]; rfl
      simp [units]
    · exact Bool.eq_iff_iff.2 (by rw [decide_eq_true_eq]; exact signed_lt_zero)
  show add (ofNat 0) (neg (finite negative size)) = _
  rw [zero_eq]
  simp only [neg, add, total, sign, natAbs_signed]
  exact ofRatio_units _ size

/-! ### Numbers between zero and one -/

theorem exists_of_inUnit {x : Double} (unit : x.InUnit) :
    ∃ negative size, x = finite negative size ∧ size.units ≤ Format.double.one ∧
      (negative = true → size.units = 0) := by
  obtain ⟨units, place, least, greatest⟩ := unit
  cases x with
  | nan => cases place
  | infinity negative =>
    have beyond := mul_one_lt_limit (n := 1) (by decide)
    obtain rfl := Option.some.inj place
    cases negative <;> simp only [signed_false, signed_true] at least greatest <;> omega
  | finite negative size =>
    obtain rfl := Option.some.inj place
    refine ⟨negative, size, rfl, ?_⟩
    cases negative <;> simp at least greatest ⊢ <;> omega

theorem isNan_of_place? {x : Double} {units : Int} (place : x.place? = some units) :
    x.isNan = false := by
  cases x with
  | nan => cases place
  | infinity => rfl
  | finite => rfl

section

variable {x : Double} {units : Int} (place : x.place? = some units)

include place

theorem lessThan_zero : x.lessThan 0 = decide (units < 0) := by
  simp [lessThan, place, place?_zero]

theorem zero_lessThan : lessThan 0 x = decide (0 < units) := by
  simp [lessThan, place, place?_zero]

theorem one_lessThan : lessThan 1 x = decide ((Format.double.one : Int) < units) := by
  simp [lessThan, place, place?_one]

theorem place?_toUnit : x.toUnit.place? = some (max 0 (min units Format.double.one)) := by
  have top := one_pos .double
  simp only [toUnit, isNan_of_place? place, lessThan_zero place, one_lessThan place,
    decide_eq_true_eq]
  by_cases below : units < 0
  · rw [if_neg (by decide), if_pos below, place?_zero]
    congr 1
    omega
  · by_cases above : (Format.double.one : Int) < units
    · rw [if_neg (by decide), if_neg below, if_pos above, place?_one]
      congr 1
      omega
    · rw [if_neg (by decide), if_neg below, if_neg above, place]
      congr 1
      omega

end

theorem toUnit_of_inUnit {x : Double} (unit : x.InUnit) : x.toUnit = x := by
  obtain ⟨units, place, least, greatest⟩ := unit
  have not_below : ¬ units < 0 := by omega
  have not_above : ¬ (Format.double.one : Int) < units := by omega
  simp [toUnit, isNan_of_place? place, lessThan_zero place, one_lessThan place, not_below,
    not_above]

theorem eq_one_of_place? {x : Double} (place : x.place? = some (Format.double.one : Int)) :
    x = 1 := by
  obtain ⟨one, one_eq, one_units⟩ := exists_ofNat (n := 1) (by decide)
  have beyond := mul_one_lt_limit (n := 1) (by decide)
  have positive := one_pos .double
  show x = ofNat 1
  cases x with
  | nan => cases place
  | infinity negative =>
    have units := Option.some.inj place
    cases negative <;> simp only [signed_false, signed_true] at units <;> omega
  | finite negative size =>
    have units := Option.some.inj place
    cases negative with
    | false =>
      rw [signed_false] at units
      rw [one_eq]
      exact congrArg _ (Magnitude.eq_of_units (by omega))
    | true =>
      rw [signed_true] at units
      omega

/-- What lies at one or beyond is brought to one. -/
theorem toUnit_of_one_le {x : Double} {units : Int} (place : x.place? = some units)
    (le : Format.double.one ≤ units) : x.toUnit = 1 := by
  refine eq_one_of_place? ?_
  have top := one_pos .double
  rw [place?_toUnit place]
  congr 1
  omega

/-! ### Parts and whole numbers -/

/-- A part of a number is no larger than the number, also when it is rounded. -/
theorem exists_mul_inUnit (size : Magnitude .double) {part : Double} (unit : part.InUnit) :
    ∃ negative product, finite false size * part = finite negative product ∧
      product.units ≤ size.units ∧ (negative = true → product.units = 0) := by
  obtain ⟨negative, share, rfl, share_le, share_zero⟩ := exists_of_inUnit unit
  have positive := one_pos .double
  have product_le : roundQuotient 53 (size.units * share.units) Format.double.one ≤ size.units :=
    roundQuotient_le positive size.fits (Nat.mul_le_mul_left _ share_le)
  obtain ⟨product, same, units⟩ := exists_ofRatio (f := .double) (false != negative)
    (Nat.lt_of_le_of_lt product_le size.lt_limit)
  refine ⟨_, product, same, units ▸ product_le, fun sign => ?_⟩
  have none : share.units = 0 := share_zero (by simpa using sign)
  rw [units, none, Nat.mul_zero]
  exact Nat.le_zero.1 (roundQuotient_le positive (Nat.dvd_zero _) (Nat.zero_le _))

/-- The whole number nearest to a magnitude, in units. -/
def wholeUnits (f : Format) (n : Nat) : Nat := (2 * n + f.one) / (2 * f.one) * f.one

theorem two_mul_wholeUnits_le (n : Nat) : 2 * wholeUnits f n ≤ 2 * n + f.one := by
  have down := Nat.div_mul_le_self (2 * n + f.one) (2 * f.one)
  have same : 2 * wholeUnits f n = (2 * n + f.one) / (2 * f.one) * (2 * f.one) := by
    rw [wholeUnits]
    ring
  rwa [same]

theorem wholeUnits_le {n bound : Nat} (le : n ≤ bound) (whole : f.one ∣ bound) :
    wholeUnits f n ≤ bound := by
  obtain ⟨c, rfl⟩ := whole
  have counted : (2 * n + f.one) / (2 * f.one) < c + 1 := by
    refine (Nat.div_lt_iff_lt_mul (by have := one_pos f; omega)).2 ?_
    have positive := one_pos f
    have expand : (c + 1) * (2 * f.one) = 2 * (f.one * c) + 2 * f.one := by ring
    omega
  rw [wholeUnits, Nat.mul_comm f.one]
  exact Nat.mul_le_mul_right _ (Nat.le_of_lt_succ counted)

theorem wholeUnits_of_dvd {n : Nat} (whole : f.one ∣ n) : wholeUnits f n = n := by
  refine Nat.le_antisymm (wholeUnits_le (Nat.le_refl n) whole) ?_
  obtain ⟨c, rfl⟩ := whole
  have positive := one_pos f
  have counted : c ≤ (2 * (f.one * c) + f.one) / (2 * f.one) := by
    refine (Nat.le_div_iff_mul_le (by omega)).2 ?_
    have expand : c * (2 * f.one) = 2 * (f.one * c) := by ring
    omega
  calc f.one * c = c * f.one := Nat.mul_comm ..
    _ ≤ wholeUnits f (f.one * c) := Nat.mul_le_mul_right _ counted

/-- A magnitude with no bits to spare below the point is whole. -/
theorem one_dvd_of_fits {n : Nat} (fits : Fits f.precision n)
    (large : 2 ^ f.precision * f.one ≤ n) : f.one ∣ n := by
  have positive := one_pos f
  have nonzero : n ≠ 0 := by
    have := Nat.mul_pos (Nat.two_pow_pos f.precision) positive
    omega
  refine Nat.dvd_trans ?_ fits
  rw [one_eq, ← Nat.pow_add] at large
  have bits := (Nat.le_log2 nonzero).2 large
  rw [one_eq, spacing_eq]
  exact Nat.pow_dvd_pow 2 (by omega)

theorem exists_roundWhole (negative : Bool) (size : Magnitude .double) :
    ∃ whole : Magnitude .double, (finite negative size).roundWhole = finite negative whole ∧
      whole.units = wholeUnits .double size.units := by
  have fits : Fits 53 (wholeUnits .double size.units) ∧
      wholeUnits .double size.units < Format.double.limit := by
    by_cases large : 2 ^ 53 * Format.double.one ≤ size.units
    · rw [wholeUnits_of_dvd (one_dvd_of_fits size.fits large)]
      exact ⟨size.fits, size.lt_limit⟩
    · have positive := one_pos .double
      have few : (2 * size.units + Format.double.one) / (2 * Format.double.one) < 2 ^ 53 + 1 :=
        (Nat.div_lt_iff_lt_mul (by omega)).2 (by omega)
      exact ⟨fits_mul_one (Nat.le_of_lt_succ few), mul_one_lt_limit (Nat.le_of_lt_succ few)⟩
  exact ⟨⟨_, fits.1, fits.2⟩, ofRatio_units negative ⟨_, fits.1, fits.2⟩, rfl⟩

end Wallpaper.Binary
