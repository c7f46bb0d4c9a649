import PadCapture.Pad.Sample
import Mathlib.Algebra.Order.Ring.Unbundled.Rat
import Mathlib.Data.Rat.Cast.Order
import Mathlib.Tactic.Linarith
import Mathlib.Tactic.NormNum
import Mathlib.Tactic.Positivity

/-!
# Exact deflections

The deflection of a byte is formed without rounding, so comparisons with it can be
made in exact rational numbers.  The first part says how the exact value of a
floating-point number moves through the operations that devices use; the second
part gives the exact deflection of every byte.
-/

namespace PadCapture

namespace FloatFormat

theorem twoPower_pos (exponent : Int) : 0 < twoPower exponent :=
  Rat.zpow_pos (by decide)

theorem magnitude_nonneg (format : FloatFormat) (rank : Nat) : 0 ≤ format.magnitude rank := by
  unfold magnitude
  dsimp only
  split
  · have spacing := twoPower_pos format.leastExponent
    positivity
  · have spacing :=
      twoPower_pos (format.leastExponent + ((rank / format.fractions - 1 : Nat) : Int))
    positivity

end FloatFormat

namespace Floating

variable {format : FloatFormat} {x y : Floating format} {a b : Rat}

theorem less_iff_of_value? (valueX : x.value? = some a) (valueY : y.value? = some b) :
    x.less y = true ↔ a < b := by
  cases x <;> cases y <;> simp_all [value?, less]

theorem value?_neg (value : x.value? = some a) : x.neg.value? = some (-a) := by
  cases x with
  | nan => simp [value?] at value
  | infinite negative => simp [value?] at value
  | finite negative rank =>
      simp only [value?, Option.some.injEq] at value
      subst value
      cases negative <;> simp [neg, value?, signedValue]

theorem value?_abs (value : x.value? = some a) : x.abs.value? = some |a| := by
  cases x with
  | nan => simp [value?] at value
  | infinite negative => simp [value?] at value
  | finite negative rank =>
      simp only [value?, Option.some.injEq] at value
      subst value
      have nonneg := format.magnitude_nonneg rank.val
      cases negative <;> simp [abs, value?, signedValue, abs_of_nonneg nonneg]

end Floating

/-- The signed distance of a byte from the centre. -/
def centreOffset (value : UInt8) : Int := (value.toNat : Int) - 128

theorem centreDistance_eq (value : UInt8) :
    centreDistance value = (centreOffset value).natAbs := rfl

private theorem value?_normalizedAxis_ofNat :
    ∀ byte : Fin 256,
      (normalizedAxis (UInt8.ofNat byte.val)).value? = some (((byte.val : Rat) - 128) / 128) := by
  decide +kernel

/-- The deflection of a byte is its distance from the centre in units of 128. -/
theorem value?_normalizedAxis (value : UInt8) :
    (normalizedAxis value).value? = some ((centreOffset value : Rat) / 128) := by
  have exactValue := value?_normalizedAxis_ofNat ⟨value.toNat, value.toNat_lt⟩
  simp only [UInt8.ofNat_toNat] at exactValue
  rw [exactValue]
  simp [centreOffset]

/-- A tenth is rounded up, but by far less than one step of a deflection. -/
theorem value?_tenth :
    (Floating.nearest (1 / 10) : Single).value? = some (13421773 / 134217728) := by
  decide +kernel

theorem value?_half : (Floating.nearest (1 / 2) : Single).value? = some (1 / 2) := by
  decide +kernel

/-- A deflection exceeds the rounded tenth from the thirteenth step on. -/
theorem tenth_lt_steps_iff (steps : Int) :
    (13421773 / 134217728 : Rat) < (steps : Rat) / 128 ↔ 13 ≤ steps := by
  constructor
  · intro exceeds
    by_contra few
    have atMost : (steps : Rat) ≤ 12 := by exact_mod_cast (by omega : steps ≤ 12)
    linarith
  · intro enough
    have atLeast : (13 : Rat) ≤ (steps : Rat) := by exact_mod_cast enough
    linarith

/-- No deflection equals the rounded tenth. -/
theorem steps_lt_tenth_iff (steps : Int) :
    (steps : Rat) / 128 < (13421773 / 134217728 : Rat) ↔ steps < 13 := by
  constructor
  · intro below
    by_contra enough
    have atLeast : (13 : Rat) ≤ (steps : Rat) := by exact_mod_cast (by omega : 13 ≤ steps)
    linarith
  · intro few
    have atMost : (steps : Rat) ≤ 12 := by exact_mod_cast (by omega : steps ≤ 12)
    linarith

theorem half_lt_steps_iff (steps : Int) : (1 / 2 : Rat) < (steps : Rat) / 128 ↔ 65 ≤ steps := by
  constructor
  · intro exceeds
    by_contra few
    have atMost : (steps : Rat) ≤ 64 := by exact_mod_cast (by omega : steps ≤ 64)
    linarith
  · intro enough
    have atLeast : (65 : Rat) ≤ (steps : Rat) := by exact_mod_cast enough
    linarith

end PadCapture
