import Wallpaper.Parallax
import Wallpaper.Proofs.Binary.Unit

/-! How far a wallpaper scrolls. Wherever a policy has been moved, an offset takes no more than the
excess of the frame over the display, so the far edge of the wallpaper does not come inside. Where
offsets are whole pixels and the excess is not, the nearest whole pixel may lie beyond the excess,
by half a pixel at most. -/
namespace Wallpaper

open Binary

namespace Parallax

/-- What moves a policy. -/
inductive Move where
  | moveTo (position : Vec)
  | turnTo (page : UInt32)

def move (p : Parallax) : Move → Parallax
  | .moveTo position => p.moveTo position
  | .turnTo page => p.turnTo page

/-- A new policy after moves. -/
def moved (config : Config) (moves : List Move) : Parallax := moves.foldl move (ofConfig config)

theorem config_move (p : Parallax) (m : Move) : (p.move m).config = p.config := by
  cases m with
  | moveTo position => rfl
  | turnTo page =>
    simp only [move, turnTo]
    split <;> rfl

theorem config_moved (config : Config) (moves : List Move) :
    (moved config moves).config = config := by
  suffices kept : ∀ p : Parallax, (moves.foldl move p).config = p.config from kept _
  induction moves with
  | nil => exact fun _ => rfl
  | cons m moves ih => exact fun p => (ih (p.move m)).trans (config_move p m)

theorem exists_along (negative : Bool) (size : Magnitude .double) {position : Double}
    (unit : position.InUnit) :
    ∃ back shift, along (finite negative size) position = finite back shift ∧
      (back = false → shift.units = 0) ∧
      (shift.units : Int) ≤ max (signed negative size.units) 0 := by
  rw [along, zero_lessThan (place?_finite negative size)]
  by_cases ahead : 0 < signed negative size.units
  · cases negative with
    | true =>
      rw [signed_true] at ahead
      omega
    | false =>
      obtain ⟨sign, product, same, product_le, product_zero⟩ := exists_mul_inUnit size unit
      rw [if_pos (decide_eq_true ahead), same, zero_sub_finite]
      refine ⟨_, product, rfl, fun not_back => ?_, ?_⟩
      · cases sign with
        | true => exact product_zero rfl
        | false => simpa using not_back
      · rw [signed_false]
        omega
  · obtain ⟨zero, same, zero_units⟩ := exists_ofNat (n := 0) (by decide)
    have none : zero.units = 0 := zero_units.trans (Nat.zero_mul _)
    rw [if_neg (by simpa using ahead)]
    refine ⟨false, zero, same, fun _ => none, ?_⟩
    omega

/-- An offset along an axis goes back. It goes no further than the excess if it may be any number or
if the excess is whole; and if it is to be whole, it goes at most half a pixel further. -/
def Covers (snap : Bool) (excess offset : Double) : Prop :=
  ∃ spare shift : Int, excess.place? = some spare ∧ offset.place? = some shift ∧ shift ≤ 0 ∧
    (snap = false ∨ (Format.double.one : Int) ∣ max spare 0 → -max spare 0 ≤ shift) ∧
    (snap = true → (Format.double.one : Int) ∣ shift ∧
      -(2 * max spare 0 + Format.double.one) ≤ 2 * shift)

theorem covers_along {excess position : Double} (is_finite : excess.IsFinite = true)
    (unit : position.InUnit) : Covers false excess (along excess position) := by
  obtain ⟨negative, size, rfl⟩ := exists_of_isFinite is_finite
  obtain ⟨back, shift, same, shift_zero, shift_le⟩ := exists_along negative size unit
  refine ⟨signed negative size.units, -shift.units, rfl, ?_, by omega, fun _ => by omega, nofun⟩
  rw [same, place?, signed_of_back shift_zero]

theorem covers_roundWhole_along {excess position : Double} (is_finite : excess.IsFinite = true)
    (unit : position.InUnit) : Covers true excess (along excess position).roundWhole := by
  obtain ⟨negative, size, rfl⟩ := exists_of_isFinite is_finite
  obtain ⟨back, shift, same, shift_zero, shift_le⟩ := exists_along negative size unit
  obtain ⟨whole, rounded, whole_units⟩ := exists_roundWhole back shift
  have whole_zero : back = false → whole.units = 0 := fun sign => by
    rw [whole_units, shift_zero sign, wholeUnits_of_dvd (Nat.dvd_zero _)]
  have half := two_mul_wholeUnits_le (f := .double) shift.units
  refine ⟨signed negative size.units, -whole.units, rfl, ?_, by omega, ?_, fun _ => ⟨?_, ?_⟩⟩
  · rw [same, rounded, place?, signed_of_back whole_zero]
  · intro fits
    obtain ⟨bound, bound_eq⟩ := Int.eq_ofNat_of_zero_le
      (Int.le_max_right (signed negative size.units) 0)
    rw [bound_eq] at fits shift_le ⊢
    have aligned : Format.double.one ∣ bound := Int.natCast_dvd_natCast.1 (fits.resolve_left nofun)
    have bounded := wholeUnits_le (Int.ofNat_le.1 shift_le) aligned
    omega
  · rw [whole_units, Int.dvd_neg, Int.natCast_dvd_natCast]
    exact Nat.dvd_mul_left _ _
  · omega

theorem covers_offset (config : Config) (moves : List Move) (frame display : Size)
    (finite_width : (frame.width - display.width).IsFinite = true)
    (finite_height : (frame.height - display.height).IsFinite = true) :
    let offset := (moved config moves).offset frame display
    Covers config.snap (frame.width - display.width) offset.x ∧
      Covers config.snap (frame.height - display.height) offset.y := by
  have unit := (moved config moves).in_unit
  intro offset
  simp only [offset, Parallax.offset, config_moved]
  cases snap : config.snap with
  | false => exact ⟨covers_along finite_width unit.1, covers_along finite_height unit.2⟩
  | true =>
    exact ⟨covers_roundWhole_along finite_width unit.1,
      covers_roundWhole_along finite_height unit.2⟩

/-- A frame that is larger to the right by half a pixel. -/
def halfPixelWider : Size := ⟨.ofDecimal false 10805 1, 1920⟩

theorem covers_offset_corner :
    let display : Size := ⟨1080, 1920⟩
    let moves := [Move.turnTo 3, .moveTo ⟨.infinity false, 1⟩]
    (halfPixelWider.width - display.width).IsFinite = true ∧
      (halfPixelWider.height - display.height).IsFinite = true ∧
      let offset := (moved .centered moves).offset halfPixelWider display
      Covers true (halfPixelWider.width - display.width) offset.x ∧
        Covers true (halfPixelWider.height - display.height) offset.y :=
  ⟨by decide +kernel, by decide +kernel,
    covers_offset .centered _ _ _ (by decide +kernel) (by decide +kernel)⟩

/-- The whole pixel nearest to half a pixel lies beyond it. -/
theorem offset_uncovers_half_pixel :
    let display : Size := ⟨1080, 1920⟩
    let excess := halfPixelWider.width - display.width
    let offset := (moved .centered [.moveTo ⟨1, 1⟩]).offset halfPixelWider display
    lessThan 0 excess = true ∧ offset.x = -1 ∧ offset.x.lessThan (-excess) = true := by
  decide +kernel

end Parallax

end Wallpaper
