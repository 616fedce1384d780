import Wallpaper.Animation
import Wallpaper.Proofs.Binary.Places

/-! The ends of an animation. Up to the start a frame shows what the animation starts with. From the
end on it shows what the animation finishes with as far as the way between the two can be written
down: the way is rounded, and a frame at the end is off by what that takes, a small part of the way.
Nothing is said of components whose way is too long to be a number. -/
namespace Wallpaper

open Binary

namespace Binary

variable {f : Format} {start finish t : Binary f}

/-- What a component shows at the start of its way. -/
def Starts (start finish value : Binary f) : Prop :=
  (finish - start).IsFinite = true → value.equal start = true

/-- What a component shows at the end of its way: its finish if the way is exact, and else what is
off the finish by a part of the way that the significant bits do not tell. An infinity lies just
beyond the finite numbers, so it is shown only where the finish is as near to that place. -/
def Ends (start finish value : Binary f) : Prop :=
  (finish - start).IsFinite = true → ∃ first last way place : Int,
    start.place? = some first ∧ finish.place? = some last ∧ (finish - start).place? = some way ∧
      value.place? = some place ∧ (way = last - first → value.equal finish = true) ∧
      2 ^ (f.precision - 1) * (place - last).natAbs ≤ (last - first).natAbs

theorem equal_of_place? {x y : Binary f} {units : Int} (x_place : x.place? = some units)
    (y_place : y.place? = some units) : x.equal y = true := by
  simp [equal, x_place, y_place]

theorem starts_between (start_finite : start.IsFinite = true) (at_start : t.place? = some 0) :
    Starts start finish (between start finish t) := by
  intro way_finite
  obtain ⟨s, m, rfl⟩ := exists_of_isFinite start_finite
  obtain ⟨d, k, way⟩ := exists_of_isFinite way_finite
  obtain ⟨z, zero, product, units⟩ := exists_of_place?_zero (place?_mul_zero d k at_start)
  have place : (between (finite s m) finish t).place? = some (signed s m.units) := by
    rw [between, way, product, place?_add, units, signed_zero, Int.add_zero, nearest_signed]
  exact equal_of_place? place rfl

theorem ends_between (start_finite : start.IsFinite = true) (finish_finite : finish.IsFinite = true)
    {one : Magnitude f} (units : one.units = f.one) :
    Ends start finish (between start finish (finite false one)) := by
  intro way_finite
  obtain ⟨s, m, rfl⟩ := exists_of_isFinite start_finite
  obtain ⟨e, n, rfl⟩ := exists_of_isFinite finish_finite
  obtain ⟨d, k, way⟩ := exists_of_isFinite way_finite
  have rounded : signed d k.units = nearest f (signed e n.units - signed s m.units) := by
    have places := place?_sub e s n m
    rw [way] at places
    exact Option.some.inj places
  have place : (between (finite s m) (finite e n) (finite false one)).place? =
      some (nearest f (signed s m.units + signed d k.units)) := by
    rw [between, way, finite_mul_one d k units, place?_add]
  have within : (nearest f (signed e n.units - signed s m.units)).natAbs < f.limit := by
    rw [← rounded, natAbs_signed]
    exact k.lt_limit
  have left_out := two_pow_mul_nearest_near within
  have near := nearest_near e n (signed s m.units + signed d k.units)
  rw [← rounded] at left_out
  -- The sum misses the finish by what the way left out, and the finish is a number, so rounding the
  -- sum moves it no further than that.
  have off : (nearest f (signed s m.units + signed d k.units) - signed e n.units).natAbs ≤
      2 * (signed d k.units - (signed e n.units - signed s m.units)).natAbs := by
    omega
  refine ⟨_, _, _, _, rfl, rfl, by rw [way]; rfl, place, fun exactly => ?_, ?_⟩
  · refine equal_of_place? place ?_
    rw [place?_finite]
    congr 1
    omega
  · rw [← Nat.two_pow_pred_mul_two f.precision_pos, Nat.mul_assoc] at left_out
    exact Nat.le_trans (Nat.mul_le_mul_left _ off) left_out

end Binary

namespace Animation

/-- All coefficients and opacities are finite. -/
def IsFinite (a : Animation) : Bool :=
  a.start.coefficients.all Binary.IsFinite && a.finish.coefficients.all Binary.IsFinite &&
    a.startOpacity.IsFinite && a.finishOpacity.IsFinite

/-- Each component of a frame stands so to the ends of its way. -/
def Each (p : ∀ {f : Format}, Binary f → Binary f → Binary f → Prop) (a : Animation)
    (frame : Frame) : Prop :=
  (∀ i : Fin 6,
      p a.start.coefficients[i] a.finish.coefficients[i] frame.transform.coefficients[i]) ∧
    p a.startOpacity a.finishOpacity frame.opacity

theorem place?_toUnit_of_start {fraction : Double}
    (at_start : fraction.isNan = true ∨ fraction.lessThan 0 = true ∨ fraction.equal 0 = true) :
    fraction.toUnit.place? = some 0 := by
  by_cases nan : fraction.isNan = true
  · rw [toUnit, if_pos nan]
    exact place?_zero
  · obtain ⟨units, place⟩ := exists_place? (Bool.not_eq_true _ ▸ nan)
    have le : units ≤ 0 := by
      rcases at_start.resolve_left nan with before | here
      · rw [lessThan_zero place, decide_eq_true_eq] at before
        omega
      · simp only [Binary.equal, place, place?_zero, decide_eq_true_eq] at here
        omega
    rw [place?_toUnit place]
    congr 1
    omega

theorem toUnit_of_end {fraction : Double}
    (at_end : lessThan 1 fraction = true ∨ fraction.equal 1 = true) : fraction.toUnit = 1 := by
  cases place : fraction.place? with
  | none => simp [lessThan, Binary.equal, place] at at_end
  | some units =>
    refine toUnit_of_one_le place ?_
    rcases at_end with past | here
    · rw [one_lessThan place, decide_eq_true_eq] at past
      omega
    · simp only [Binary.equal, place, place?_one, decide_eq_true_eq] at here
      omega

/-- At the start and before, each component is what it starts with. At the end and past it, each is
what it finishes with, or as near as the rounded way leads. -/
theorem frameAt_ends (a : Animation) (is_finite : a.IsFinite = true) (fraction : Double) :
    (fraction.isNan = true ∨ fraction.lessThan 0 = true ∨ fraction.equal 0 = true →
      a.Each Starts (a.frameAt fraction)) ∧
    (lessThan 1 fraction = true ∨ fraction.equal 1 = true → a.Each Ends (a.frameAt fraction)) := by
  simp only [IsFinite, Bool.and_eq_true, Vector.all_eq_true] at is_finite
  obtain ⟨⟨⟨starts, finishes⟩, start_opacity⟩, finish_opacity⟩ := is_finite
  constructor
  · intro at_start
    have place := place?_toUnit_of_start at_start
    refine ⟨fun i => ?_, starts_between start_opacity (place?_convert_zero _ place)⟩
    simpa [frameAt] using starts_between (starts i i.isLt) place
  · intro at_end
    obtain ⟨one, one_eq, one_units⟩ := exists_ofNat (n := 1) (by decide)
    obtain ⟨single, single_eq, single_units⟩ := exists_convert_one
    have unit : fraction.toUnit = finite false one := (toUnit_of_end at_end).trans one_eq
    have unit_single : fraction.toUnit.convert .single = finite false single :=
      toUnit_of_end at_end ▸ single_eq
    constructor
    · intro i
      have ends := ends_between (starts i i.isLt) (finishes i i.isLt)
        (one_units.trans (Nat.one_mul _))
      simpa [frameAt, unit] using ends
    · have ends := ends_between start_opacity finish_opacity single_units
      simpa only [frameAt, unit_single] using ends

theorem frameAt_ends_fade :
    let a := fade (.ofDecimal false 2 1) (.ofDecimal false 8 1) { seconds := 1, nanoseconds := 0 }
    a.IsFinite = true ∧ isNan (.nan : Double) = true ∧
      lessThan (1 : Double) (.infinity false) = true ∧
      a.Each Starts (a.frameAt .nan) ∧ a.Each Ends (a.frameAt (.infinity false)) := by
  intro a
  have is_finite : a.IsFinite = true := by decide +kernel
  have past : lessThan (1 : Double) (.infinity false) = true := by decide +kernel
  exact ⟨is_finite, rfl, past, (frameAt_ends a is_finite .nan).1 (.inl rfl),
    (frameAt_ends a is_finite (.infinity false)).2 (.inl past)⟩

/-- A coefficient whose way is too long to be a number shows none at the start. One whose way is
longer than its finish by more than the significant bits tell shows zero at the end, where it
finishes with one. -/
theorem frameAt_misses_ends :
    let a := move ⟨#v[-ofNat (1 <<< 1023), 0, 0, 1, 100000000000000000, 0]⟩
      ⟨#v[ofNat (1 <<< 1023), 0, 0, 1, 1, 0]⟩ { seconds := 1, nanoseconds := 0 }
    a.IsFinite = true ∧
      (a.frameAt 0).transform.coefficients[0] = .nan ∧
      (a.frameAt 0).transform.equal a.start = false ∧
      (a.frameAt 1).transform.coefficients[4] = 0 ∧
      (a.frameAt 1).transform.equal a.finish = false := by
  decide +kernel

end Animation

end Wallpaper
