import Wallpaper.Proofs.Parallax.Cover

/-! Pages of a launcher over a wallpaper. The first page is at the left edge, each page is no
further left than the one before it, and what comes after the last page is at the right edge. The
last page itself is there too, or at the greatest position before it, since the step from page to
page is rounded. -/
namespace Wallpaper.Parallax

open Binary

/-- The distance from one down to the number before it. -/
def gap : Nat := 2 ^ (1 <<< 10 - 3)

theorem double_one : Format.double.one = 2 ^ (1 <<< 10 - 3 + 53) :=
  (one_eq .double).trans (congrArg (2 ^ ·) (by decide))

theorem one_eq_gap_mul : Format.double.one = gap * 2 ^ 53 := by
  rw [double_one, gap, Nat.pow_add]

theorem add_gap_le {n : Nat} (fits : Fits 53 n) (lt : n < Format.double.one) :
    n + gap ≤ Format.double.one := by
  rw [double_one] at lt ⊢
  exact add_two_pow_le (by decide) fits lt

section

variable {last : Nat} (positive : 0 < last)

include positive

theorem stepUnits_le :
    roundQuotient 53 (Format.double.one * Format.double.one) (last * Format.double.one) ≤
      Format.double.one := by
  have fits : Fits 53 (1 * Format.double.one) := fits_mul_one (f := .double) (by decide)
  rw [Nat.one_mul] at fits
  refine roundQuotient_le (Nat.mul_pos positive (one_pos _)) fits ?_
  exact Nat.mul_le_mul_left _ (Nat.le_mul_of_pos_left _ positive)

variable (small : last < 2 ^ 32)

include small

theorem one_le_stepUnits_mul :
    Format.double.one ≤ roundQuotient 53 (Format.double.one * Format.double.one)
      (last * Format.double.one) * last + gap := by
  have unit_pos := one_pos .double
  have large : 2 ^ 84 ≤ Format.double.one := by decide +kernel
  have normal : 2 ^ 52 ≤ Format.double.one * Format.double.one / (last * Format.double.one) := by
    rw [Nat.mul_div_mul_right _ _ unit_pos, Nat.le_div_iff_mul_le positive]
    omega
  have near := @le_roundQuotient_add 53 _ _ (by decide) (Nat.mul_pos positive unit_pos) normal
  generalize roundQuotient 53 (Format.double.one * Format.double.one) (last * Format.double.one) =
    step at near ⊢
  have scaled : 2 ^ 53 * Format.double.one ≤ 2 ^ 53 * (step * last) + Format.double.one := by
    refine Nat.le_of_mul_le_mul_right ?_ unit_pos
    calc 2 ^ 53 * Format.double.one * Format.double.one
        = 2 ^ 53 * (Format.double.one * Format.double.one) := Nat.mul_assoc ..
      _ ≤ 2 ^ 53 * (step * (last * Format.double.one)) +
          Format.double.one * Format.double.one := near
      _ = (2 ^ 53 * (step * last) + Format.double.one) * Format.double.one := by ring
  have gaps := one_eq_gap_mul
  omega

/-- Steps to the last page that fall short of the right edge do so by no more than the gap before
it. -/
theorem exists_step :
    ∃ step : Magnitude .double, (1 : Double) / ofNat last = finite false step ∧
      step.units ≤ Format.double.one ∧ Format.double.one ≤ step.units * last + gap := by
  obtain ⟨one, one_eq, one_units⟩ := exists_ofNat (n := 1) (by decide)
  obtain ⟨size, size_eq, size_units⟩ := exists_ofNat (n := last) (by omega)
  rw [Nat.one_mul] at one_units
  have step_le := stepUnits_le positive
  obtain ⟨step, same, units⟩ := exists_ofRatio (f := .double) false
    (Nat.lt_of_le_of_lt step_le (one_units ▸ one.lt_limit))
  refine ⟨step, ?_, units ▸ step_le, units ▸ one_le_stepUnits_mul positive small⟩
  have nonzero : size.units ≠ 0 :=
    Nat.ne_of_gt (size_units ▸ Nat.mul_pos positive (one_pos .double))
  show div (ofNat 1) (ofNat last) = _
  rw [one_eq, size_eq, div, if_neg nonzero, one_units, size_units]
  exact same

end

/-- Where a page lies before it is brought between the edges, in units. -/
def pageUnits (step : Magnitude .double) (page : Nat) : Nat :=
  roundQuotient 53 (step.units * (page * Format.double.one)) Format.double.one

theorem exists_page {step : Magnitude .double} (le : step.units ≤ Format.double.one) {page : Nat}
    (small : page < 2 ^ 32) :
    ∃ place : Magnitude .double, finite false step * ofNat page = finite false place ∧
      place.units = pageUnits step page := by
  obtain ⟨size, size_eq, size_units⟩ := exists_ofNat (n := page) (by omega)
  have place_le : pageUnits step page ≤ page * Format.double.one := by
    have few : page ≤ 2 ^ 53 := by omega
    refine roundQuotient_le (one_pos _) (fits_mul_one (f := .double) few) ?_
    rw [Nat.mul_comm (page * _)]
    exact Nat.mul_le_mul_right _ le
  obtain ⟨place, same, units⟩ := exists_ofRatio (f := .double) false
    (Nat.lt_of_le_of_lt place_le (mul_one_lt_limit (by omega)))
  refine ⟨place, ?_, units⟩
  show mul (finite false step) (ofNat page) = _
  rw [size_eq, mul, size_units]
  exact same

theorem pageUnits_zero (step : Magnitude .double) : pageUnits step 0 = 0 := by
  rw [pageUnits, Nat.zero_mul, Nat.mul_zero]
  exact roundQuotient_zero (by decide) (one_pos _)

theorem pageUnits_mono (step : Magnitude .double) {page later : Nat} (le : page ≤ later) :
    pageUnits step page ≤ pageUnits step later :=
  roundQuotient_mono (by decide) (one_pos _)
    (Nat.mul_le_mul_left _ (Nat.mul_le_mul_right _ le))

theorem le_pageUnits {step : Magnitude .double} {n page : Nat} (fits : Fits 53 n)
    (le : n ≤ step.units * page) : n ≤ pageUnits step page := by
  refine le_roundQuotient (by decide) (one_pos _) fits ?_
  rw [← Nat.mul_assoc]
  exact Nat.mul_le_mul_right _ le

section

variable {step : Magnitude .double} {last : Nat} (small : last < 2 ^ 32)
  (reaches : Format.double.one ≤ step.units * last + gap)

include small reaches

theorem gap_le_step : gap ≤ step.units := by
  by_contra! short
  have steps : step.units * last ≤ gap * 2 ^ 32 := Nat.mul_le_mul (Nat.le_of_lt short) (by omega)
  have gaps := one_eq_gap_mul
  omega

theorem one_le_pageUnits {page : Nat} (beyond : last < page) :
    Format.double.one ≤ pageUnits step page := by
  have fits := fits_mul_one (f := .double) (n := 1) (by decide)
  rw [Nat.one_mul] at fits
  refine le_pageUnits fits ?_
  have steps : step.units * (last + 1) ≤ step.units * page := Nat.mul_le_mul_left _ beyond
  have one_more : step.units * (last + 1) = step.units * last + step.units := by ring
  have gap_le := gap_le_step small reaches
  omega

end

/-- A position along the axis of the pages is where a page is. -/
def IsPage (step : Magnitude .double) (page : Nat) (x : Double) : Prop :=
  ∃ place : Magnitude .double, place.units = pageUnits step page ∧ (finite false place).toUnit = x

namespace IsPage

variable {step : Magnitude .double} {page : Nat} {x : Double}

theorem place?_eq (h : IsPage step page x) :
    x.place? = some (min (pageUnits step page : Int) Format.double.one) := by
  obtain ⟨place, units, rfl⟩ := h
  rw [place?_toUnit (place?_finite false place), signed_false, ← units]
  congr 1
  omega

theorem eq_zero (h : IsPage step 0 x) : x = 0 := by
  obtain ⟨place, units, rfl⟩ := h
  obtain ⟨zero, zero_eq, zero_units⟩ := exists_ofNat (n := 0) (by decide)
  have same : place = zero := by
    refine Magnitude.eq_of_units ?_
    rw [units, zero_units, Nat.zero_mul]
    exact pageUnits_zero step
  rw [same, ← zero_eq]
  exact toUnit_of_inUnit inUnit_zero

theorem eq_one (h : IsPage step page x) (reached : Format.double.one ≤ pageUnits step page) :
    x = 1 := by
  obtain ⟨place, units, rfl⟩ := h
  refine toUnit_of_one_le (place?_finite false place) ?_
  rw [signed_false]
  omega

theorem not_lessThan {later : Nat} {z : Double} (h : IsPage step page x) (h' : IsPage step later z)
    (le : page ≤ later) : z.lessThan x = false := by
  have units_le := pageUnits_mono step le
  simp only [lessThan, h.place?_eq, h'.place?_eq, decide_eq_false_iff_not]
  omega

/-- Whatever lies before the right edge does not lie behind the last page. -/
theorem none_between (h : IsPage step page x)
    (reaches : Format.double.one ≤ step.units * page + gap) {y : Double}
    (before : y.lessThan 1 = true) : x.lessThan y = false := by
  have beyond := mul_one_lt_limit (n := 1) (by decide)
  cases y with
  | nan => cases before
  | infinity negative =>
    simp only [lessThan, place?_infinity, place?_one, decide_eq_true_eq] at before
    simp only [lessThan, h.place?_eq, place?_infinity, decide_eq_false_iff_not]
    cases negative <;> simp only [signed_false, signed_true] at before ⊢ <;> omega
  | finite negative size =>
    simp only [lessThan, place?_finite, place?_one, decide_eq_true_eq] at before
    simp only [lessThan, h.place?_eq, place?_finite, decide_eq_false_iff_not]
    cases negative with
    | true =>
      rw [signed_true]
      omega
    | false =>
      rw [signed_false] at before ⊢
      have within := add_gap_le size.fits (Int.ofNat_lt.1 before)
      have reached : size.units ≤ pageUnits step page := le_pageUnits size.fits (by omega)
      omega

end IsPage

/-- A launcher with pages goes by one step from page to page, and not at all along the other
axis. -/
theorem exists_turns {count : UInt32} (several : 1 < count) :
    ∃ step : Magnitude .double, Format.double.one ≤ step.units * (count.toNat - 1) + gap ∧
      ∀ p : Parallax, p.config = .pages count → ∀ page,
        IsPage step page.toNat (p.turnTo page).position.x ∧
        (p.turnTo page).position.y = p.position.y := by
  have positive : 0 < count.toNat - 1 := Nat.sub_pos_of_lt (UInt32.lt_iff_toNat_lt.1 several)
  have small : count.toNat - 1 < 2 ^ 32 := Nat.lt_of_le_of_lt (Nat.sub_le ..) count.toNat_lt
  obtain ⟨step, step_eq, step_le, reaches⟩ := exists_step positive small
  have step_pos : 0 < step.units :=
    Nat.lt_of_lt_of_le (Nat.two_pow_pos _) (gap_le_step small reaches)
  have forward : lessThan 0 (finite false step) = true := by
    rw [zero_lessThan (place?_finite false step)]
    exact decide_eq_true (Int.natCast_pos.2 step_pos)
  have level : lessThan 0 (0 : Double) = false := zero_lessThan place?_zero
  refine ⟨step, reaches, fun p config page => ?_⟩
  obtain ⟨place, place_eq, place_units⟩ := exists_page step_le page.toNat_lt
  have turned : (p.turnTo page).position = ⟨(finite false place).toUnit, p.position.y⟩ := by
    simp only [turnTo, config, Config.pages, if_pos several, step_eq, forward, level, if_true,
      Bool.false_eq_true, if_false, place_eq, moveTo, Vec.toUnit, toUnit_of_inUnit p.in_unit.2]
  simp only [turned, and_true]
  exact ⟨place, place_units, rfl⟩

theorem position_turnTo_of_le_one {p : Parallax} {count : UInt32} (config : p.config = .pages count)
    (few : ¬ 1 < count) (page : UInt32) : (p.turnTo page).position = p.position := by
  have level : lessThan 0 (0 : Double) = false := zero_lessThan place?_zero
  simp only [turnTo, config, Config.pages, if_neg few, level, Bool.false_eq_true, if_false, moveTo,
    Vec.toUnit, toUnit_of_inUnit p.in_unit.1, toUnit_of_inUnit p.in_unit.2]

/-- From any position, the first page is at the left edge, what comes after the last page is at the
right edge, and the last page has no position between itself and the right edge. No page is further
left than the one before it. The other axis stays, and so does everything with less than two
pages. -/
theorem turnTo_pages (count : UInt32) (moves : List Move) :
    let p := moved (.pages count) moves
    let x (page : UInt32) := (p.turnTo page).position.x
    (1 < count →
      x 0 = 0 ∧
      (∀ y : Double, y.lessThan 1 = true → (x (count - 1)).lessThan y = false) ∧
      (∀ page, count ≤ page → x page = 1) ∧
      (∀ page later, page ≤ later → (x later).lessThan (x page) = false) ∧
      ∀ page, (p.turnTo page).position.y = p.position.y) ∧
    (¬ 1 < count → ∀ page, (p.turnTo page).position = p.position) := by
  intro p x
  have config : p.config = .pages count := config_moved _ _
  refine ⟨fun several => ?_, fun few => position_turnTo_of_le_one config few⟩
  obtain ⟨step, reaches, turns⟩ := exists_turns several
  have is_page (page : UInt32) : IsPage step page.toNat (x page) := (turns p config page).1
  have last : (count - 1).toNat = count.toNat - 1 :=
    UInt32.toNat_sub_of_le _ _ (UInt32.le_of_lt several)
  have small := count.toNat_lt
  refine ⟨(is_page 0).eq_zero, fun y before => ?_, fun page after => ?_, fun page later le => ?_,
    fun page => (turns p config page).2⟩
  · exact (is_page (count - 1)).none_between (last ▸ reaches) before
  · have beyond : count.toNat ≤ page.toNat := UInt32.le_iff_toNat_le.1 after
    have pages : 1 < count.toNat := UInt32.lt_iff_toNat_lt.1 several
    exact (is_page page).eq_one (one_le_pageUnits (by omega) reaches (by omega))
  · exact (is_page page).not_lessThan (is_page later) (UInt32.le_iff_toNat_le.1 le)

/-- With fifty pages the rounded step falls short of the right edge. -/
theorem last_of_fifty_pages :
    let x := ((moved (.pages 50) []).turnTo 49).position.x
    x ≠ 1 ∧ x.equal 1 = false ∧ x.lessThan 1 = true := by
  decide +kernel

end Wallpaper.Parallax
