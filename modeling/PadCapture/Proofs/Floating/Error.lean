import PadCapture.Proofs.Floating.Bounds

/-!
# Errors of rounded results

A magnitude is moved by at most half the spacing of the ranks around it when it is rounded, and
the spacing is known from a power of two above the magnitude.  So products and sums are near the
exact ones, and the byte of a number is near the number.
-/

namespace PadCapture

namespace FloatFormat

variable (format : FloatFormat) {q : Rat}

/-- The magnitude of a place in a row of ranks, to which the end of the row belongs. -/
theorem magnitude_row {row place : Nat} (inRow : place ≤ 2 * format.fractions)
    (used : row = 0 ∨ format.fractions ≤ place) :
    format.magnitude (row * format.fractions + place) =
      place * twoPower (format.leastExponent + row) := by
  have positive := format.fractions_pos
  unfold magnitude
  dsimp only
  rw [Nat.mul_add_mod', Nat.mul_comm row, Nat.mul_add_div positive]
  rcases Nat.lt_or_ge place format.fractions with low | high
  · have first : row = 0 := used.resolve_right (Nat.not_le.mpr low)
    simp [first, Nat.div_eq_of_lt low, Nat.mod_eq_of_lt low]
  rcases inRow.eq_or_lt with ending | inside
  · have binade : place / format.fractions = 2 := by
      rw [ending, Nat.mul_div_cancel _ positive]
    have start : place % format.fractions = 0 := by rw [ending, Nat.mul_mod_left]
    have exponent : format.leastExponent + ((row + 2 - 1 : Nat) : Int) =
        1 + (format.leastExponent + row) := by omega
    rw [binade, start, if_neg (by omega), exponent, twoPower_add 1, twoPower_one, ending]
    push_cast
    ring
  · have binade : place / format.fractions = 1 :=
      Nat.div_eq_of_lt_le (by omega) (by omega)
    have division := Nat.div_add_mod place format.fractions
    rw [binade, mul_one] at division
    rw [binade, division, if_neg (by omega), Nat.add_sub_cancel]

/-- In spacings, the rounded magnitude is the whole number nearest to the exact one. -/
theorem magnitude_nearestRank_of_pos (positive : 0 < q) :
    format.magnitude (format.nearestRank q) =
      roundHalfEven (q * twoPower (-format.spacingExponent q)) *
        twoPower (format.spacingExponent q) := by
  have least := format.leastExponent_le_spacingExponent q
  have used : (format.spacingExponent q - format.leastExponent).toNat = 0 ∨
      format.fractions ≤ roundHalfEven (q * twoPower (-format.spacingExponent q)) := by
    rcases least.eq_or_lt with same | above
    · exact .inl (by omega)
    · exact .inr (format.le_roundHalfEven_scaled positive above)
  rw [format.nearestRank_of_pos positive,
    format.magnitude_row (format.roundHalfEven_scaled_le positive) used]
  congr 2
  omega

/-- Rounding moves a magnitude by at most half the spacing around it. -/
theorem abs_magnitude_nearestRank_sub_le (positive : 0 < q) :
    |format.magnitude (format.nearestRank q) - q| ≤
      twoPower (format.spacingExponent q - 1) := by
  have spacingPos := twoPower_pos (format.spacingExponent q)
  have halfPower : twoPower (-1) = 1 / 2 := by norm_num [twoPower]
  obtain ⟨high, low⟩ := roundHalfEven_near
    (mul_pos positive (twoPower_pos (-format.spacingExponent q))).le
  rw [format.magnitude_nearestRank_of_pos positive]
  calc |roundHalfEven (q * twoPower (-format.spacingExponent q)) *
          twoPower (format.spacingExponent q) - q|
      = |(roundHalfEven (q * twoPower (-format.spacingExponent q)) -
          q * twoPower (-format.spacingExponent q)) * twoPower (format.spacingExponent q)| := by
        rw [sub_mul, mul_assoc q, mul_comm (twoPower (-_)), twoPower_mul_neg, mul_one]
    _ = |roundHalfEven (q * twoPower (-format.spacingExponent q)) -
          q * twoPower (-format.spacingExponent q)| * twoPower (format.spacingExponent q) := by
        rw [abs_mul, abs_of_pos spacingPos]
    _ ≤ 1 / 2 * twoPower (format.spacingExponent q) :=
        mul_le_mul_of_nonneg_right (abs_le.mpr ⟨by linarith, by linarith⟩) spacingPos.le
    _ = twoPower (format.spacingExponent q - 1) := by
        rw [sub_eq_neg_add, twoPower_add, halfPower]

theorem spacingExponent_le {e : Int} (normal : format.leastExponent + format.fractionBits ≤ e)
    (positive : 0 < q) (below : q < twoPower (e + 1)) :
    format.spacingExponent q ≤ e - format.fractionBits := by
  rw [lt_twoPower_iff positive] at below
  unfold spacingExponent
  omega

end FloatFormat

namespace Floating

open FloatFormat

variable {format : FloatFormat} {x y : Floating format} {p q : Rat} {e : Int}

/-- A finite number whose value differs from `q` by at most `error`. -/
def Near (error q : Rat) (x : Floating format) : Prop :=
  ∃ r, x.value? = some r ∧ |r - q| ≤ error

section Rounded

variable (normal : format.leastExponent + format.fractionBits ≤ e)
  (finite : e + 1 < format.leastExponent + (format.fractionBits + format.binades : Int))

include normal finite

theorem near_ofMagnitude (negative : Bool) (nonneg : 0 ≤ q) (below : q < twoPower (e + 1)) :
    Near (twoPower (e - format.fractionBits - 1)) (if negative then -q else q)
      (ofMagnitude negative q : Floating format) := by
  have inRange : format.nearestRank q < format.rankCount :=
    nearestRank_lt_rankCount (format.isMagnitude_twoPower (by omega) finite) below.le
  have error : |format.magnitude (format.nearestRank q) - q| ≤
      twoPower (e - format.fractionBits - 1) := by
    rcases nonneg.eq_or_lt with zero | positive
    · rw [← zero, nearestRank_of_nonpos _ le_rfl, magnitude_zero, sub_zero, abs_zero]
      exact (twoPower_pos _).le
    · have spacing := format.spacingExponent_le normal positive below
      exact (format.abs_magnitude_nearestRank_sub_le positive).trans (twoPower_mono (by omega))
  unfold ofMagnitude
  rw [dif_pos inRange]
  refine ⟨_, rfl, ?_⟩
  cases negative with
  | true => simpa only [signedValue, if_true, neg_sub_neg, abs_sub_comm] using error
  | false => simpa [signedValue] using error

theorem near_nearest (below : |q| < twoPower (e + 1)) :
    Near (twoPower (e - format.fractionBits - 1)) q (nearest q : Floating format) := by
  unfold nearest
  split
  · rename_i negative
    rw [abs_of_neg negative] at below
    simpa using near_ofMagnitude normal finite true (neg_pos.mpr negative).le below
  · rename_i nonneg
    rw [abs_of_nonneg (not_lt.mp nonneg)] at below
    simpa using near_ofMagnitude normal finite false (not_lt.mp nonneg) below

theorem near_mul (valueX : x.value? = some p) (valueY : y.value? = some q)
    (below : |p * q| < twoPower (e + 1)) :
    Near (twoPower (e - format.fractionBits - 1)) (p * q) (x.mul y) := by
  cases x with
  | nan => cases valueX
  | infinite => cases valueX
  | finite a rank =>
      cases y with
      | nan => cases valueY
      | infinite => cases valueY
      | finite b other =>
          cases valueX
          cases valueY
          have nonneg := mul_nonneg (format.magnitude_nonneg rank) (format.magnitude_nonneg other)
          have product : signedValue format a rank * signedValue format b other =
              if (a != b) = true then -(format.magnitude rank * format.magnitude other)
              else format.magnitude rank * format.magnitude other := by
            cases a <;> cases b <;> simp [signedValue]
          have size : |signedValue format a rank * signedValue format b other| =
              format.magnitude rank * format.magnitude other := by
            rw [product]
            split
            · rw [abs_neg, abs_of_nonneg nonneg]
            · rw [abs_of_nonneg nonneg]
          rw [size] at below
          rw [product]
          exact near_ofMagnitude normal finite _ nonneg below

theorem near_add (valueX : x.value? = some p) (valueY : y.value? = some q) (nonzero : p + q ≠ 0)
    (below : |p + q| < twoPower (e + 1)) :
    Near (twoPower (e - format.fractionBits - 1)) (p + q) (x.add y) := by
  rw [add_eq_nearest valueX valueY nonzero]
  exact near_nearest normal finite below

end Rounded

/-- The byte of a number in the range of bytes is at most half away from it. -/
theorem abs_toByte_sub_le (value : x.value? = some q) (nonneg : 0 ≤ q) (below : q < 255 + 1 / 2) :
    |(x.toByte.toNat : Rat) - q| ≤ 1 / 2 := by
  cases x with
  | nan => cases value
  | infinite => cases value
  | finite negative rank =>
      have magnitudeNonneg := format.magnitude_nonneg rank.val
      cases value
      cases negative with
      | true =>
          have zero : format.magnitude rank = 0 := by
            simp only [signedValue, if_true] at nonneg
            linarith
          simp [toByte, signedValue, zero]
      | false =>
          simp only [signedValue, Bool.false_eq_true, if_false] at below ⊢
          have low := Nat.floor_le (add_nonneg magnitudeNonneg one_half_pos.le)
          have high := Nat.lt_floor_add_one (format.magnitude rank + 1 / 2)
          have small : ⌊format.magnitude rank + 1 / 2⌋₊ < 256 :=
            (Nat.floor_lt (by positivity)).mpr (by push_cast; linarith)
          have byte : (toByte (.finite false rank : Floating format)).toNat =
              ⌊format.magnitude rank + 1 / 2⌋₊ := by
            have held : min ⌊format.magnitude rank + 1 / 2⌋₊ 255 =
                ⌊format.magnitude rank + 1 / 2⌋₊ := by omega
            change (UInt8.ofNat (min ⌊format.magnitude rank + 1 / 2⌋₊ 255)).toNat = _
            rw [held, UInt8.toNat_ofNat_of_lt' small]
          rw [byte, abs_le]
          constructor <;> linarith

end Floating

end PadCapture
