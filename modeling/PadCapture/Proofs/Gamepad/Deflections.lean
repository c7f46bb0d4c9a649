import PadCapture.Gamepad.Event
import PadCapture.Proofs.Floating.Error

/-!
# Bytes of deflections

A deflection between one end and the other moves the byte by 127 steps to one side of the centre
or to the other.  The product and the sum are rounded on the way to the byte, which moves the
exact place of the byte by less than one part in 65536 of a step.
-/

namespace PadCapture.Gamepad

open FloatFormat Floating

/-- A deflection is shown as the byte nearest to its place around the centre, where the roundings
on the way may decide between two bytes that are about equally near.  Deflections beyond the ends
count as full, and not-a-number is shown as zero. -/
inductive IsShownAs : Single → UInt8 → Prop where
  | nan : IsShownAs .nan 0
  | infinite (negative : Bool) : IsShownAs (.infinite negative) (if negative then 1 else 255)
  | finite {value : Single} {q : Rat} (exact : value.value? = some q) {byte : UInt8}
      (near : |(byte.toNat : Rat) - (128 + 127 * max (-1) (min q 1))| ≤ 1 / 2 + 1 / 65536) :
      IsShownAs value byte

theorem isShownAs_axisByte_of_value? {value : Single} {q : Rat}
    (exactValue : value.value? = some q) : IsShownAs value (axisByte value) := by
  have lowest : (nearest (-1) : Single).value? = some (-1) := by decide +kernel
  have highest : (nearest 1 : Single).value? = some 1 := by decide +kernel
  have steps : (nearest 127 : Single).value? = some 127 := by decide +kernel
  have centre : (nearest 128 : Single).value? = some 128 := by decide +kernel
  refine .finite exactValue ?_
  have clamped := value?_clamp exactValue lowest highest (by norm_num)
  have low : -1 ≤ max (-1) (min q 1) := le_max_left _ _
  have high : max (-1) (min q 1) ≤ 1 := max_le (by norm_num) (min_le_right _ _)
  unfold axisByte
  generalize max (-1) (min q 1) = deflection at *
  -- The product lies below 128 and the sum below 256, so their spacings are known.
  have productRange : twoPower (6 + 1) = 128 := by norm_num [twoPower]
  have sumRange : twoPower (7 + 1) = 256 := by norm_num [twoPower]
  have productError : twoPower (6 - (single.fractionBits : Int) - 1) = 1 / 262144 := by
    change twoPower (-18) = _
    norm_num [twoPower]
  have sumError : twoPower (7 - (single.fractionBits : Int) - 1) = 1 / 131072 := by
    change twoPower (-17) = _
    norm_num [twoPower]
  have productSmall : |deflection * 127| < twoPower (6 + 1) := by
    rw [productRange, abs_lt]
    constructor <;> linarith
  obtain ⟨p, product, productNear⟩ :=
    near_mul (by decide) (by decide) clamped steps productSmall
  rw [productError, abs_le] at productNear
  have sumSmall : |p + 128| < twoPower (7 + 1) := by
    rw [sumRange, abs_lt]
    constructor <;> linarith
  have positive : 0 < p + 128 := by linarith
  obtain ⟨s, sum, sumNear⟩ :=
    near_add (by decide) (by decide) product centre positive.ne' sumSmall
  rw [sumError, abs_le] at sumNear
  have byteNear := abs_toByte_sub_le sum (by linarith) (by linarith)
  rw [abs_le] at byteNear ⊢
  constructor <;> linarith

theorem isShownAs_axisByte (value : Single) : IsShownAs value (axisByte value) := by
  cases value with
  | nan =>
      have byte : axisByte .nan = 0 := by decide +kernel
      rw [byte]
      exact .nan
  | infinite negative =>
      have byte : ∀ negative, axisByte (.infinite negative) = if negative then 1 else 255 := by
        decide +kernel
      rw [byte]
      exact .infinite negative
  | finite negative rank => exact isShownAs_axisByte_of_value? rfl

end PadCapture.Gamepad
