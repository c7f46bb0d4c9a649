import PadCapture.Proofs.Pad.Deflection
import Mathlib.Data.Int.Log
import Mathlib.Data.Rat.Floor

/-!
# Rounding to the nearest rank

Rounding keeps the order of the exact results and leaves every magnitude of the format as it
is.  So a magnitude of the format that bounds an exact result from one side bounds the rounded
result from the same side.
-/

namespace PadCapture.FloatFormat

section Powers

theorem twoPower_add (a b : Int) : twoPower (a + b) = twoPower a * twoPower b :=
  zpow_add₀ (by norm_num) a b

theorem twoPower_natCast (n : Nat) : twoPower n = ((2 ^ n : Nat) : Rat) := by
  unfold twoPower
  rw [zpow_natCast]
  push_cast
  rfl

theorem twoPower_one : twoPower 1 = 2 := rfl

theorem twoPower_mul_neg (a : Int) : twoPower a * twoPower (-a) = 1 := by
  rw [← twoPower_add, add_neg_cancel]
  rfl

theorem twoPower_double (a : Int) : twoPower (2 * a) = twoPower a * twoPower a := by
  rw [two_mul, twoPower_add]

theorem scaled_le_of_le {q r : Rat} {e : Int} (le : q ≤ r * twoPower e) :
    q * twoPower (-e) ≤ r := by
  calc q * twoPower (-e) ≤ r * twoPower e * twoPower (-e) :=
        mul_le_mul_of_nonneg_right le (twoPower_pos _).le
    _ = r := by rw [mul_assoc, twoPower_mul_neg, mul_one]

theorem le_scaled_of_le {q r : Rat} {e : Int} (le : r * twoPower e ≤ q) :
    r ≤ q * twoPower (-e) := by
  calc r = r * twoPower e * twoPower (-e) := by rw [mul_assoc, twoPower_mul_neg, mul_one]
    _ ≤ q * twoPower (-e) := mul_le_mul_of_nonneg_right le (twoPower_pos _).le

theorem twoPower_mono {a b : Int} (le : a ≤ b) : twoPower a ≤ twoPower b :=
  zpow_le_zpow_right₀ (by norm_num) le

theorem twoPower_lt_succ (a : Int) : twoPower a < twoPower (a + 1) :=
  zpow_lt_zpow_right₀ (by norm_num) (lt_add_one a)

theorem natCast_mem_binade {n : Nat} (nonzero : n ≠ 0) :
    twoPower n.log2 ≤ (n : Rat) ∧ (n : Rat) < twoPower ((n.log2 : Int) + 1) := by
  rw [← Nat.cast_succ, twoPower_natCast, twoPower_natCast]
  exact ⟨by exact_mod_cast Nat.log2_self_le nonzero, by exact_mod_cast Nat.lt_log2_self⟩

variable {q : Rat} (positive : 0 < q)

include positive

theorem twoPower_le_iff_le_log (e : Int) : twoPower e ≤ q ↔ e ≤ Int.log 2 q := by
  have adjoint := Int.zpow_le_iff_le_log one_lt_two positive (x := e)
  rwa [Nat.cast_ofNat] at adjoint

/-- The estimate from the sizes of numerator and denominator is corrected to the logarithm. -/
theorem binaryExponent_eq_log : binaryExponent q = Int.log 2 q := by
  have numeratorPos : 0 < q.num := Rat.num_pos.mpr positive
  have quotient : (q.num.natAbs : Rat) = q * q.den := by
    rw [Rat.mul_den_eq_num, Nat.cast_natAbs, abs_of_pos numeratorPos]
  obtain ⟨numeratorLow, numeratorHigh⟩ :=
    natCast_mem_binade (Int.natAbs_pos.mpr numeratorPos.ne').ne'
  obtain ⟨denominatorLow, denominatorHigh⟩ := natCast_mem_binade q.den_pos.ne'
  rw [quotient] at numeratorLow numeratorHigh
  unfold binaryExponent
  dsimp only
  generalize (q.num.natAbs.log2 : Int) = a at *
  generalize (q.den.log2 : Int) = b at *
  -- The quotient of the two binades spans two binades, of which the estimate is the upper one.
  have below : ¬ twoPower (a - b + 1) ≤ q := by
    intro le
    have contradiction : twoPower (a + 1) ≤ q * q.den := by
      calc twoPower (a + 1) = twoPower (a - b + 1) * twoPower b := by
            rw [← twoPower_add]
            congr 1
            omega
        _ ≤ q * q.den := mul_le_mul le denominatorLow (twoPower_pos b).le positive.le
    linarith
  have above : twoPower (a - b - 1) ≤ q := by
    by_contra lt
    have contradiction : q * q.den < twoPower a := by
      calc q * q.den < twoPower (a - b - 1) * twoPower (b + 1) :=
            mul_lt_mul'' (not_le.mp lt) denominatorHigh positive.le (Nat.cast_nonneg _)
        _ = twoPower a := by
            rw [← twoPower_add]
            congr 1
            omega
    linarith
  rw [twoPower_le_iff_le_log positive] at below above
  split
  · rename_i reached
    rw [twoPower_le_iff_le_log positive] at reached
    omega
  · rename_i missed
    rw [twoPower_le_iff_le_log positive] at missed
    omega

theorem twoPower_le_iff (e : Int) : twoPower e ≤ q ↔ e ≤ binaryExponent q := by
  rw [binaryExponent_eq_log positive, twoPower_le_iff_le_log positive]

theorem lt_twoPower_iff (e : Int) : q < twoPower e ↔ binaryExponent q < e := by
  rw [← not_le, twoPower_le_iff positive, not_le]

end Powers

section Halves

/-- The natural number nearest to `q`, where a half goes to the even one. -/
def roundHalfEven (q : Rat) : Nat := nearestEven q.num.natAbs q.den

theorem roundHalfEven_natCast (n : Nat) : roundHalfEven n = n := by
  simp [roundHalfEven, nearestEven, Nat.mod_one]

/-- The rounded quotient is at most half away from the exact one. -/
theorem nearestEven_near (numerator : Nat) {denominator : Nat} (positive : 0 < denominator) :
    2 * (nearestEven numerator denominator * denominator) ≤ 2 * numerator + denominator ∧
      2 * numerator ≤ 2 * (nearestEven numerator denominator * denominator) + denominator := by
  have division := Nat.div_add_mod' numerator denominator
  have rest := Nat.mod_lt numerator positive
  have up := Nat.add_one_mul (numerator / denominator) denominator
  unfold nearestEven
  dsimp only
  split
  · omega
  · split
    · omega
    · split <;> omega

variable {q r : Rat}

theorem roundHalfEven_near (nonneg : 0 ≤ q) :
    (roundHalfEven q : Rat) ≤ q + 1 / 2 ∧ q ≤ roundHalfEven q + 1 / 2 := by
  have denominatorPos : (0 : Rat) < q.den := by exact_mod_cast q.den_pos
  have quotient : (q.num.natAbs : Rat) = q * q.den := by
    rw [Rat.mul_den_eq_num, Nat.cast_natAbs, abs_of_nonneg (Rat.num_nonneg.mpr nonneg)]
  obtain ⟨high, low⟩ := nearestEven_near q.num.natAbs q.den_pos
  have highRat : 2 * (roundHalfEven q * q.den : Rat) ≤ 2 * (q.num.natAbs : Rat) + q.den := by
    exact_mod_cast high
  have lowRat : 2 * (q.num.natAbs : Rat) ≤ 2 * (roundHalfEven q * q.den : Rat) + q.den := by
    exact_mod_cast low
  rw [quotient] at highRat lowRat
  constructor
  · apply le_of_mul_le_mul_right _ denominatorPos
    linarith
  · apply le_of_mul_le_mul_right _ denominatorPos
    linarith

theorem roundHalfEven_mono (nonneg : 0 ≤ q) (le : q ≤ r) : roundHalfEven q ≤ roundHalfEven r := by
  by_contra lt
  have step : (roundHalfEven r : Rat) + 1 ≤ roundHalfEven q := by exact_mod_cast not_le.mp lt
  obtain ⟨high, -⟩ := roundHalfEven_near nonneg
  obtain ⟨-, low⟩ := roundHalfEven_near (nonneg.trans le)
  have same : q = r := by linarith
  rw [same] at lt
  exact lt le_rfl

end Halves

section Ranks

variable (format : FloatFormat)

/-- The number of bits that tell the ranks of one binade apart. -/
def fractionBits : Nat := format.precision - 1

theorem cast_fractions : (format.fractions : Rat) = twoPower format.fractionBits := by
  rw [twoPower_natCast, fractions, fractionBits, Nat.shiftLeft_eq, Nat.one_mul]

/-- The exponent of the spacing of the ranks around a positive magnitude. -/
def spacingExponent (q : Rat) : Int :=
  max format.leastExponent (binaryExponent q - format.fractionBits)

theorem leastExponent_le_spacingExponent (q : Rat) :
    format.leastExponent ≤ format.spacingExponent q := le_max_left _ _

variable {q r : Rat}

theorem nearestRank_of_nonpos (nonpos : q ≤ 0) : format.nearestRank q = 0 := if_pos nonpos

theorem nearestRank_of_pos (positive : 0 < q) :
    format.nearestRank q =
      (format.spacingExponent q - format.leastExponent).toNat * format.fractions +
        roundHalfEven (q * twoPower (-format.spacingExponent q)) :=
  if_neg (not_le.mpr positive)

/-- Counted in spacings, a magnitude lies within a row of ranks. -/
theorem scaled_le (positive : 0 < q) :
    q * twoPower (-format.spacingExponent q) ≤ ((2 * format.fractions : Nat) : Rat) := by
  have inside : q < twoPower (1 + format.fractionBits + format.spacingExponent q) := by
    rw [lt_twoPower_iff positive]
    unfold spacingExponent
    omega
  rw [twoPower_add, twoPower_add, twoPower_one, ← cast_fractions] at inside
  push_cast
  exact scaled_le_of_le inside.le

/-- Above the least spacing it lies in the upper half of the row. -/
theorem le_scaled (positive : 0 < q) (above : format.leastExponent < format.spacingExponent q) :
    (format.fractions : Rat) ≤ q * twoPower (-format.spacingExponent q) := by
  have inside : twoPower (format.fractionBits + format.spacingExponent q) ≤ q := by
    rw [twoPower_le_iff positive]
    unfold spacingExponent at above ⊢
    omega
  rw [twoPower_add, ← cast_fractions] at inside
  exact le_scaled_of_le inside

theorem roundHalfEven_scaled_le (positive : 0 < q) :
    roundHalfEven (q * twoPower (-format.spacingExponent q)) ≤ 2 * format.fractions := by
  have rounded := roundHalfEven_mono (mul_pos positive (twoPower_pos _)).le
    (format.scaled_le positive)
  rwa [roundHalfEven_natCast] at rounded

theorem le_roundHalfEven_scaled (positive : 0 < q)
    (above : format.leastExponent < format.spacingExponent q) :
    format.fractions ≤ roundHalfEven (q * twoPower (-format.spacingExponent q)) := by
  have rounded := roundHalfEven_mono (Nat.cast_nonneg _) (format.le_scaled positive above)
  rwa [roundHalfEven_natCast] at rounded

theorem spacingExponent_mono (positive : 0 < q) (le : q ≤ r) :
    format.spacingExponent q ≤ format.spacingExponent r := by
  have logs := Int.log_mono_right (b := 2) positive le
  rw [← binaryExponent_eq_log positive, ← binaryExponent_eq_log (positive.trans_le le)] at logs
  unfold spacingExponent
  omega

theorem nearestRank_mono (le : q ≤ r) : format.nearestRank q ≤ format.nearestRank r := by
  rcases le_or_gt q 0 with nonpos | positive
  · rw [format.nearestRank_of_nonpos nonpos]
    exact Nat.zero_le _
  · have least := format.leastExponent_le_spacingExponent q
    rw [format.nearestRank_of_pos positive, format.nearestRank_of_pos (positive.trans_le le)]
    rcases (format.spacingExponent_mono positive le).eq_or_lt with same | wider
    · rw [← same]
      have scaled := mul_le_mul_of_nonneg_right le (twoPower_pos (-format.spacingExponent q)).le
      exact Nat.add_le_add_left
        (roundHalfEven_mono (mul_pos positive (twoPower_pos _)).le scaled) _
    · -- A wider spacing starts where the rows of the narrower one end.
      have ending := format.roundHalfEven_scaled_le positive
      have beginning := format.le_roundHalfEven_scaled (positive.trans_le le) (by omega)
      have rows : (format.spacingExponent q - format.leastExponent).toNat + 1 ≤
          (format.spacingExponent r - format.leastExponent).toNat := by omega
      have earlier := Nat.mul_le_mul_right format.fractions rows
      rw [Nat.add_one_mul] at earlier
      omega

/-- A rank is a row and a place in it; all but the first row are used in their upper half. -/
theorem exists_row (rank : Nat) :
    ∃ row place : Nat, rank = row * format.fractions + place ∧
      place < 2 * format.fractions ∧ (row = 0 ∨ format.fractions ≤ place) ∧
      format.magnitude rank = place * twoPower (format.leastExponent + row) := by
  have division := Nat.div_add_mod' rank format.fractions
  have rest := Nat.mod_lt rank format.fractions_pos
  unfold magnitude
  dsimp only
  split
  · rename_i first
    rw [first] at division
    exact ⟨0, rank % format.fractions, by omega, by omega, .inl rfl, by simp⟩
  · rename_i later
    obtain ⟨row, above⟩ := Nat.exists_eq_succ_of_ne_zero later
    rw [above, Nat.succ_mul] at division
    refine ⟨row, format.fractions + rank % format.fractions, by omega, by omega,
      .inr (by omega), ?_⟩
    rw [above, Nat.succ_sub_one]

theorem lt_twoPower_row (row : Nat) {place : Nat} (small : place < 2 * format.fractions) :
    (place : Rat) * twoPower (format.leastExponent + row) <
      twoPower (1 + format.fractionBits + (format.leastExponent + row)) := by
  rw [twoPower_add _ (_ + _), twoPower_add 1, twoPower_one, ← cast_fractions]
  exact mul_lt_mul_of_pos_right (by exact_mod_cast small) (twoPower_pos _)

/-- The magnitudes from a power of two on are whole multiples of the spacing there. -/
theorem exists_multiple {rank : Nat} {e : Int} (reached : twoPower e ≤ format.magnitude rank) :
    ∃ count : Nat, format.magnitude rank = count * twoPower (e - format.fractionBits) := by
  obtain ⟨row, place, -, small, -, value⟩ := format.exists_row rank
  have wide : e - format.fractionBits ≤ format.leastExponent + row := by
    by_contra narrow
    rw [value] at reached
    have beyond := twoPower_mono
      (by omega : 1 + format.fractionBits + (format.leastExponent + row) ≤ e)
    exact absurd (reached.trans_lt (format.lt_twoPower_row row small)) (not_lt.mpr beyond)
  obtain ⟨shift, exponent⟩ := Int.eq_ofNat_of_zero_le (Int.sub_nonneg.mpr wide)
  refine ⟨place * 2 ^ shift, ?_⟩
  rw [value, Nat.cast_mul, ← twoPower_natCast, mul_assoc, ← twoPower_add]
  congr 2
  omega

/-- The spacing around a number of a row is that of the row. -/
theorem spacingExponent_row {row place : Nat} (positive : 0 < place)
    (small : place < 2 * format.fractions) (used : row = 0 ∨ format.fractions ≤ place) :
    format.spacingExponent (place * twoPower (format.leastExponent + row)) =
      format.leastExponent + row := by
  have spacingPos := twoPower_pos (format.leastExponent + row)
  have placePos : (0 : Rat) < place := by exact_mod_cast positive
  have magnitudePos := mul_pos placePos spacingPos
  have inside := (lt_twoPower_iff magnitudePos _).mp (format.lt_twoPower_row row small)
  unfold spacingExponent
  rcases used with first | upper
  · omega
  · have reached : twoPower (format.fractionBits + (format.leastExponent + row)) ≤
        (place : Rat) * twoPower (format.leastExponent + row) := by
      rw [twoPower_add, ← cast_fractions]
      exact mul_le_mul_of_nonneg_right (by exact_mod_cast upper) spacingPos.le
    rw [twoPower_le_iff magnitudePos] at reached
    omega

theorem nearestRank_magnitude (rank : Nat) : format.nearestRank (format.magnitude rank) = rank := by
  obtain ⟨row, place, inRow, small, used, value⟩ := format.exists_row rank
  rw [value]
  rcases Nat.eq_zero_or_pos place with zero | positive
  · have first : row = 0 := used.resolve_right (by have := format.fractions_pos; omega)
    rw [inRow, zero, first, format.nearestRank_of_nonpos (by simp)]
    simp
  · have placePos : (0 : Rat) < place := by exact_mod_cast positive
    have magnitudePos := mul_pos placePos (twoPower_pos (format.leastExponent + row))
    rw [format.nearestRank_of_pos magnitudePos, format.spacingExponent_row positive small used,
      mul_assoc, twoPower_mul_neg, mul_one, roundHalfEven_natCast, inRow]
    congr 2
    omega

theorem magnitude_mono {rank other : Nat} (le : rank ≤ other) :
    format.magnitude rank ≤ format.magnitude other := by
  by_contra lt
  have ranks := format.nearestRank_mono (not_le.mp lt).le
  rw [nearestRank_magnitude, nearestRank_magnitude] at ranks
  rw [Nat.le_antisymm le ranks] at lt
  exact lt le_rfl

end Ranks

section Magnitudes

variable (format : FloatFormat)

/-- The magnitudes of the finite numbers. -/
def IsMagnitude (q : Rat) : Prop := ∃ rank < format.rankCount, format.magnitude rank = q

theorem magnitude_zero : format.magnitude 0 = 0 := by
  simp [magnitude]

theorem isMagnitude_zero : format.IsMagnitude 0 :=
  ⟨0, format.rankCount_pos, format.magnitude_zero⟩

/-- The powers of two from the first full row on. -/
theorem isMagnitude_twoPower {e : Int}
    (above : format.leastExponent + format.fractionBits ≤ e)
    (below : e < format.leastExponent + (format.fractionBits + format.binades : Int)) :
    format.IsMagnitude (twoPower e) := by
  obtain ⟨row, shift⟩ := Int.eq_ofNat_of_zero_le (Int.sub_nonneg.mpr above)
  refine ⟨format.fractions * (row + 1), ?_, ?_⟩
  · exact Nat.mul_lt_mul_of_pos_left (by omega) format.fractions_pos
  · have later : format.fractions * (row + 1) / format.fractions = row + 1 :=
      Nat.mul_div_cancel_left _ format.fractions_pos
    have start : format.fractions * (row + 1) % format.fractions = 0 := Nat.mul_mod_right _ _
    unfold magnitude
    dsimp only
    rw [later, start, if_neg (Nat.succ_ne_zero row), Nat.add_zero, cast_fractions, ← twoPower_add]
    congr 1
    omega

theorem isMagnitude_single {e : Int} (above : -126 ≤ e) (below : e < 128) :
    single.IsMagnitude (twoPower e) :=
  isMagnitude_twoPower _ above below

theorem isMagnitude_double {e : Int} (above : -1022 ≤ e) (below : e < 1024) :
    double.IsMagnitude (twoPower e) :=
  isMagnitude_twoPower _ above below

variable {format} {low high q : Rat}

theorem le_magnitude_nearestRank (held : format.IsMagnitude low) (le : low ≤ q) :
    low ≤ format.magnitude (format.nearestRank q) := by
  obtain ⟨rank, -, rfl⟩ := held
  have ranks := format.nearestRank_mono le
  rw [nearestRank_magnitude] at ranks
  exact format.magnitude_mono ranks

theorem magnitude_nearestRank_le (held : format.IsMagnitude high) (le : q ≤ high) :
    format.magnitude (format.nearestRank q) ≤ high := by
  obtain ⟨rank, -, rfl⟩ := held
  have ranks := format.nearestRank_mono le
  rw [nearestRank_magnitude] at ranks
  exact format.magnitude_mono ranks

theorem nearestRank_lt_rankCount (held : format.IsMagnitude high) (le : q ≤ high) :
    format.nearestRank q < format.rankCount := by
  obtain ⟨rank, finite, rfl⟩ := held
  have ranks := format.nearestRank_mono le
  rw [nearestRank_magnitude] at ranks
  exact ranks.trans_lt finite

end Magnitudes

end PadCapture.FloatFormat
