import PadCapture.Proofs.Floating.Rounding

/-!
# Bounds of rounded results

An operation forms its exact result from numbers whose magnitudes are bounded, and rounds it.
If the bounds of the exact result are magnitudes of the format, they are bounds of the rounded
one as well; such a result is finite, and its sign is that of the exact result.
-/

namespace PadCapture.Floating

open FloatFormat

section Roots

theorem toNat_floor_eq (q : Rat) : q.floor.toNat = ⌊q⌋₊ := rfl

/-- A root is approximated by the whole root of the scaled number, with a half more where this is
not exact, so no whole number lies strictly between the scaled root and its approximation. -/
theorem exists_rootApproximation (format : FloatFormat) {q : Rat} (nonneg : 0 ≤ q) :
    ∃ shift halves : Nat,
      (format.precision : Int) + 1 - binaryExponent q / 2 ≤ shift ∧
      (∀ whole : Nat, (whole : Rat) * whole ≤ q * twoPower (2 * shift) → 2 * whole ≤ halves) ∧
      (∀ whole : Nat, q * twoPower (2 * shift) ≤ (whole : Rat) * whole → halves ≤ 2 * whole) ∧
      rootApproximation format q = (halves : Rat) * twoPower (-(shift : Int) - 1) := by
  have scaledNonneg := mul_nonneg nonneg (twoPower_pos
    (2 * ((format.precision : Int) + 1 - binaryExponent q / 2).toNat)).le
  refine ⟨((format.precision : Int) + 1 - binaryExponent q / 2).toNat, _, by omega, ?_, ?_, rfl⟩
  all_goals
    simp only [toNat_floor_eq]
    generalize q * twoPower (2 * ((format.precision : Int) + 1 - binaryExponent q / 2).toNat) =
      scaled at *
    intro whole inside
  · have root : whole ≤ Nat.sqrt ⌊scaled⌋₊ :=
      Nat.le_sqrt.mpr (Nat.le_floor (by exact_mod_cast inside))
    omega
  · have square : ((Nat.sqrt ⌊scaled⌋₊ * Nat.sqrt ⌊scaled⌋₊ : Nat) : Rat) ≤ scaled :=
      le_trans (by exact_mod_cast Nat.sqrt_le _) (Nat.floor_le scaledNonneg)
    have root : Nat.sqrt ⌊scaled⌋₊ ≤ whole := by
      rw [← Nat.mul_self_le_mul_self_iff]
      exact_mod_cast square.trans inside
    by_cases isSquare : ((Nat.sqrt ⌊scaled⌋₊ * Nat.sqrt ⌊scaled⌋₊ : Nat) : Rat) = scaled
    · simp [isSquare, root]
    · have different : Nat.sqrt ⌊scaled⌋₊ ≠ whole := by
        intro same
        apply isSquare (square.antisymm _)
        rw [same]
        exact_mod_cast inside
      simp only [beq_iff_eq, isSquare, if_false]
      omega

variable {format : FloatFormat} {q : Rat} {e : Int}

/-- A power of two that is not finer than the scale is a whole number on it. -/
theorem exists_whole {shift : Nat} (coarse : 0 ≤ e + shift) :
    ∃ whole : Nat, (whole : Rat) * whole = twoPower (2 * e) * twoPower (2 * shift) ∧
      ((2 * whole : Nat) : Rat) * twoPower (-(shift : Int) - 1) = twoPower e := by
  obtain ⟨power, exponent⟩ := Int.eq_ofNat_of_zero_le coarse
  have whole : ((2 ^ power : Nat) : Rat) = twoPower (e + shift) := by
    rw [exponent, twoPower_natCast]
  refine ⟨2 ^ power, ?_, ?_⟩
  · rw [whole, ← twoPower_add, ← twoPower_add]
    congr 1
    omega
  · rw [Nat.cast_mul, whole, Nat.cast_ofNat, ← twoPower_one, ← twoPower_add, ← twoPower_add]
    congr 1
    omega

/-- An even power of two below a number bounds its approximated root. -/
theorem twoPower_le_rootApproximation (below : twoPower (2 * e) ≤ q) :
    twoPower e ≤ rootApproximation format q := by
  have positive := (twoPower_pos (2 * e)).trans_le below
  obtain ⟨shift, halves, enough, lower, -, approximated⟩ :=
    exists_rootApproximation format positive.le
  -- The power may be finer than the scale, but the greatest one of its kind is not.
  have exponent := (twoPower_le_iff positive (2 * e)).mp below
  have greatest : twoPower (2 * (binaryExponent q / 2)) ≤ q :=
    (twoPower_le_iff positive _).mpr (by omega)
  have coarse : 0 ≤ binaryExponent q / 2 + (shift : Int) := by omega
  obtain ⟨whole, square, power⟩ := exists_whole coarse
  have inside : 2 * whole ≤ halves := by
    apply lower
    rw [square]
    exact mul_le_mul_of_nonneg_right greatest (twoPower_pos _).le
  calc twoPower e ≤ twoPower (binaryExponent q / 2) := twoPower_mono (by omega)
    _ = ((2 * whole : Nat) : Rat) * twoPower (-(shift : Int) - 1) := power.symm
    _ ≤ (halves : Rat) * twoPower (-(shift : Int) - 1) :=
        mul_le_mul_of_nonneg_right (by exact_mod_cast inside) (twoPower_pos _).le
    _ = rootApproximation format q := approximated.symm

theorem rootApproximation_le_twoPower (positive : 0 < q) (above : q ≤ twoPower (2 * e)) :
    rootApproximation format q ≤ twoPower e := by
  obtain ⟨shift, halves, enough, -, upper, approximated⟩ :=
    exists_rootApproximation format positive.le
  have exponent := (lt_twoPower_iff positive (2 * e + 1)).mp
    (above.trans_lt (twoPower_lt_succ _))
  have coarse : 0 ≤ e + (shift : Int) := by omega
  obtain ⟨whole, square, power⟩ := exists_whole coarse
  have inside : halves ≤ 2 * whole := by
    apply upper
    rw [square]
    exact mul_le_mul_of_nonneg_right above (twoPower_pos _).le
  rw [approximated, ← power]
  exact mul_le_mul_of_nonneg_right (by exact_mod_cast inside) (twoPower_pos _).le

end Roots

section Values

variable {format : FloatFormat} {x y : Floating format} {p q : Rat}

theorem add_eq_nearest (valueX : x.value? = some p) (valueY : y.value? = some q)
    (nonzero : p + q ≠ 0) : x.add y = nearest (p + q) := by
  cases x <;> cases y <;> simp_all [value?, add]

theorem atMost_iff_of_value? (valueX : x.value? = some p) (valueY : y.value? = some q) :
    x.atMost y = true ↔ p ≤ q := by
  cases x <;> cases y <;> simp_all [value?, atMost]

theorem value?_zero (negative : Bool) : (zero negative : Floating format).value? = some 0 := by
  simp [zero, value?, signedValue, magnitude_zero]

theorem isFinite_of_value? (value : x.value? = some p) : x.isFinite = true := by
  cases x with
  | nan => cases value
  | infinite => cases value
  | finite negative rank => rfl

/-- A finite number that is moved into a range stays or becomes an end of the range. -/
theorem value?_clamp {low high : Floating format} {l h : Rat}
    (value : x.value? = some p) (lowest : low.value? = some l) (highest : high.value? = some h)
    (range : l ≤ h) : (x.clamp low high).value? = some (max l (min p h)) := by
  unfold clamp
  split
  · rename_i below
    rw [less_iff_of_value? value lowest] at below
    rw [lowest, min_eq_left (below.le.trans range), max_eq_left below.le]
  · rename_i reached
    rw [less_iff_of_value? value lowest, not_lt] at reached
    split
    · rename_i above
      rw [less_iff_of_value? highest value] at above
      rw [highest, min_eq_right above.le, max_eq_right range]
    · rename_i inside
      rw [less_iff_of_value? highest value, not_lt] at inside
      rw [value, min_eq_left inside, max_eq_right reached]

theorem exists_value?_clamp {low high : Floating format} {l h : Rat}
    (value : x.value? = some p) (lowest : low.value? = some l) (highest : high.value? = some h)
    (range : l ≤ h) : ∃ moved, (x.clamp low high).value? = some moved ∧ l ≤ moved ∧ moved ≤ h :=
  ⟨_, value?_clamp value lowest highest range, le_max_left _ _, max_le range (min_le_right _ _)⟩

end Values

/-- A finite number with the given sign whose magnitude lies within the bounds. -/
inductive Between {format : FloatFormat} (negative : Bool) (low high : Rat) :
    Floating format → Prop where
  | of_rank (rank : Fin format.rankCount) (above : low ≤ format.magnitude rank)
      (below : format.magnitude rank ≤ high) : Between negative low high (.finite negative rank)

section Operations

variable {format : FloatFormat} {x y : Floating format} {a b : Bool}
  {lowX highX lowY highY low high p q : Rat}

theorem Between.weaken (bounded : Between a lowX highX x) (above : low ≤ lowX)
    (below : highX ≤ high) : Between a low high x := by
  obtain ⟨rank, aboveX, belowX⟩ := bounded
  exact ⟨rank, above.trans aboveX, belowX.trans below⟩

theorem between_zero (negative : Bool) : Between negative 0 0 (zero negative : Floating format) :=
  ⟨_, format.magnitude_zero.ge, format.magnitude_zero.le⟩

/-- The bounds of a number that is not zero are bounds of its value. -/
theorem Between.of_value? (value : x.value? = some q) (nonzero : q ≠ 0) :
    Between (decide (q < 0)) |q| |q| x := by
  cases x with
  | nan => cases value
  | infinite => cases value
  | finite negative rank =>
      have nonneg := format.magnitude_nonneg rank.val
      cases value
      cases negative with
      | true =>
          have below : -format.magnitude rank < 0 := by
            simp only [signedValue, if_true, ne_eq, neg_eq_zero] at nonzero
            exact neg_neg_of_pos (lt_of_le_of_ne nonneg (Ne.symm nonzero))
          simp only [signedValue, if_true, below, decide_true, abs_neg, abs_of_nonneg nonneg]
          exact ⟨rank, le_rfl, le_rfl⟩
      | false =>
          simp only [signedValue, Bool.false_eq_true, if_false, not_lt.mpr nonneg, decide_false,
            abs_of_nonneg nonneg]
          exact ⟨rank, le_rfl, le_rfl⟩

theorem Between.of_pos (value : x.value? = some q) (positive : 0 < q) :
    Between false q q x := by
  have bounded := Between.of_value? value positive.ne'
  rwa [decide_eq_false (not_lt.mpr positive.le), abs_of_pos positive] at bounded

theorem Between.exists_value? (bounded : Between false low high x) :
    ∃ q, x.value? = some q ∧ low ≤ q ∧ q ≤ high := by
  obtain ⟨rank, above, below⟩ := bounded
  exact ⟨_, rfl, above, below⟩

theorem exists_multiple_of_value? {e : Int} (value : x.value? = some q)
    (reached : twoPower e ≤ q) :
    ∃ count : Nat, q = count * twoPower (e - format.fractionBits) := by
  obtain ⟨rank, above, below⟩ := Between.of_pos value ((twoPower_pos e).trans_le reached)
  obtain ⟨count, multiple⟩ := format.exists_multiple (reached.trans above)
  exact ⟨count, above.antisymm below ▸ multiple⟩

/-- The gap below a number is at least the spacing at every power of two up to its half. -/
theorem twoPower_le_sub {e : Int} (valueX : x.value? = some p) (valueY : y.value? = some q)
    (lt : q < p) (reached : twoPower (e + 1) ≤ p) :
    twoPower (e - format.fractionBits) ≤ p - q := by
  have doubled : twoPower (e + 1) = twoPower e * 2 := twoPower_add e 1
  have powerPos := twoPower_pos e
  rcases le_or_gt (twoPower e) q with large | small
  · -- Both numbers are whole multiples of the spacing.
    obtain ⟨countX, multipleX⟩ := exists_multiple_of_value? valueX (large.trans lt.le)
    obtain ⟨countY, multipleY⟩ := exists_multiple_of_value? valueY large
    have spacingPos := twoPower_pos (e - format.fractionBits)
    rw [multipleX, multipleY] at lt ⊢
    have counts : countY + 1 ≤ countX := by exact_mod_cast lt_of_mul_lt_mul_right lt spacingPos.le
    have atLeast : ((countY : Rat) + 1) * twoPower (e - format.fractionBits) ≤
        countX * twoPower (e - format.fractionBits) :=
      mul_le_mul_of_nonneg_right (by exact_mod_cast counts) spacingPos.le
    linarith
  · have finer : twoPower (e - format.fractionBits) ≤ twoPower e := twoPower_mono (by omega)
    linarith

section Rounded

variable (lowHeld : format.IsMagnitude low) (highHeld : format.IsMagnitude high)

include lowHeld highHeld

theorem between_ofMagnitude (negative : Bool) (above : low ≤ q) (below : q ≤ high) :
    Between negative low high (ofMagnitude negative q : Floating format) := by
  have finite := nearestRank_lt_rankCount highHeld below
  unfold ofMagnitude
  rw [dif_pos finite]
  exact ⟨_, le_magnitude_nearestRank lowHeld above, magnitude_nearestRank_le highHeld below⟩

theorem Between.mul (first : Between a lowX highX x) (second : Between b lowY highY y)
    (nonneg : 0 ≤ lowY) (above : low ≤ lowX * lowY) (below : highX * highY ≤ high) :
    Between (a != b) low high (x.mul y) := by
  obtain ⟨rank, aboveX, belowX⟩ := first
  obtain ⟨other, aboveY, belowY⟩ := second
  have rankNonneg := format.magnitude_nonneg rank
  have otherNonneg := format.magnitude_nonneg other
  exact between_ofMagnitude lowHeld highHeld _
    (above.trans (mul_le_mul aboveX aboveY nonneg rankNonneg))
    ((mul_le_mul belowX belowY otherNonneg (rankNonneg.trans belowX)).trans below)

theorem Between.div (first : Between a lowX highX x) (second : Between b lowY highY y)
    (positive : 0 < lowY) (above : low ≤ lowX / highY) (below : highX / lowY ≤ high) :
    Between (a != b) low high (x.div y) := by
  obtain ⟨rank, aboveX, belowX⟩ := first
  obtain ⟨other, aboveY, belowY⟩ := second
  have rankNonneg := format.magnitude_nonneg rank
  have nonzero : other.val ≠ 0 := by
    intro zero
    rw [zero, magnitude_zero] at aboveY
    linarith
  change Between (a != b) low high (if other.val = 0 then _ else _)
  rw [if_neg nonzero]
  exact between_ofMagnitude lowHeld highHeld _
    (above.trans (div_le_div₀ rankNonneg aboveX (positive.trans_le aboveY) belowY))
    ((div_le_div₀ (rankNonneg.trans belowX) belowX positive aboveY).trans below)

theorem Between.add (first : Between false lowX highX x) (second : Between false lowY highY y)
    (above : low ≤ lowX + lowY) (below : highX + highY ≤ high) :
    Between false low high (x.add y) := by
  obtain ⟨rank, aboveX, belowX⟩ := first
  obtain ⟨other, aboveY, belowY⟩ := second
  have rankNonneg := format.magnitude_nonneg rank
  have otherNonneg := format.magnitude_nonneg other
  by_cases vanishes : format.magnitude rank + format.magnitude other = 0
  · have sum : add (finite false rank) (finite false other) = zero false := if_pos vanishes
    have start : format.magnitude (⟨0, format.rankCount_pos⟩ : Fin format.rankCount).val = 0 :=
      format.magnitude_zero
    rw [sum]
    exact ⟨_, by linarith, by linarith⟩
  · have nonneg : ¬ format.magnitude rank + format.magnitude other < 0 := by linarith
    rw [add_eq_nearest rfl rfl vanishes, nearest, if_neg nonneg]
    exact between_ofMagnitude lowHeld highHeld _ (by linarith) (by linarith)

/-- The difference of a greater and a smaller number is positive. -/
theorem Between.sub_of_lt (valueX : x.value? = some p) (valueY : y.value? = some q) (lt : q < p)
    (above : low ≤ p - q) (below : p - q ≤ high) : Between false low high (x.sub y) := by
  have positive : ¬ p + -q < 0 := by linarith
  unfold sub
  rw [add_eq_nearest valueX (value?_neg valueY) (by linarith), nearest, if_neg positive]
  exact between_ofMagnitude lowHeld highHeld _ (by linarith) (by linarith)

theorem Between.convert {source : FloatFormat} {x : Floating source}
    (bounded : Between a lowX highX x) (above : low ≤ lowX) (below : highX ≤ high) :
    Between a low high (x.convert : Floating format) := by
  obtain ⟨rank, aboveX, belowX⟩ := bounded
  exact between_ofMagnitude lowHeld highHeld _ (above.trans aboveX) (belowX.trans below)

end Rounded

theorem Between.sqrt {least greatest : Int} (leastHeld : format.IsMagnitude (twoPower least))
    (greatestHeld : format.IsMagnitude (twoPower greatest))
    (bounded : Between false (twoPower (2 * least)) (twoPower (2 * greatest)) x) :
    Between false (twoPower least) (twoPower greatest) x.sqrt := by
  obtain ⟨rank, above, below⟩ := bounded
  have positive := (twoPower_pos (2 * least)).trans_le above
  have nonzero : rank.val ≠ 0 := by
    intro zero
    rw [zero, magnitude_zero] at positive
    exact lt_irrefl _ positive
  have root : Floating.sqrt (finite false rank) =
      ofMagnitude false (rootApproximation format (format.magnitude rank)) := if_neg nonzero
  rw [root]
  exact between_ofMagnitude leastHeld greatestHeld _ (twoPower_le_rootApproximation above)
    (rootApproximation_le_twoPower positive below)

end Operations

theorem add_comm {format : FloatFormat} (x y : Floating format) : x.add y = y.add x := by
  cases x with
  | nan => cases y <;> rfl
  | infinite a =>
      cases y with
      | nan => rfl
      | infinite b => by_cases same : a = b <;> simp [add, same, Ne.symm]
      | finite b s => rfl
  | finite a r =>
      cases y with
      | nan => rfl
      | infinite b => rfl
      | finite b s =>
          simp only [add, Rat.add_comm (signedValue format a r), Bool.and_comm a]

end PadCapture.Floating

namespace PadCapture.Single

open FloatFormat Floating

theorem hypot_comm (x y : Single) : hypot x y = hypot y x := by
  unfold hypot
  dsimp only
  rw [Floating.add_comm]

/-- The square of a component, formed in the wide format. -/
theorem between_square {x : Single} {a : Bool} {low : Rat} {greatest : Int}
    (bounded : Between a low (twoPower greatest) x) (nonneg : 0 ≤ low)
    (lowHeld : FloatFormat.double.IsMagnitude low)
    (squareHeld : FloatFormat.double.IsMagnitude (low * low))
    (large : -126 ≤ greatest) (small : greatest < 127) :
    Between false (low * low) (twoPower (2 * greatest))
      ((x.convert : Double).mul x.convert) := by
  have wide : Between a low (twoPower greatest) (x.convert : Double) :=
    bounded.convert lowHeld (isMagnitude_double (by omega) (by omega)) le_rfl le_rfl
  have square := wide.mul squareHeld (isMagnitude_double (by omega) (by omega)) wide nonneg
    le_rfl (twoPower_double greatest).ge
  rwa [bne_self_eq_false] at square

variable {x y : Single} {a b : Bool} {least greatest : Int} (normal : -126 ≤ least)
  (ordered : least ≤ greatest) (small : greatest < 127)

include normal ordered small

/-- A vector is not shorter than its first component. -/
theorem between_hypot_left (first : Between a (twoPower least) (twoPower greatest) x)
    (second : Between b 0 (twoPower greatest) y) :
    Between false (twoPower least) (twoPower (greatest + 1)) (hypot x y) := by
  have squareX := between_square first (twoPower_pos least).le
    (isMagnitude_double (by omega) (by omega))
    (by rw [← twoPower_double]; exact isMagnitude_double (by omega) (by omega))
    (by omega) small
  have squareY := between_square second le_rfl (isMagnitude_zero _)
    (by rw [mul_zero]; exact isMagnitude_zero _) (by omega) small
  have doubled : twoPower (2 * greatest) + twoPower (2 * greatest) ≤
      twoPower (2 * (greatest + 1)) := by
    rw [← two_mul, ← twoPower_one, ← twoPower_add]
    exact twoPower_mono (by omega)
  have sum : Between false (twoPower (2 * least)) (twoPower (2 * (greatest + 1)))
      (((x.convert : Double).mul x.convert).add ((y.convert : Double).mul y.convert)) :=
    squareX.add (isMagnitude_double (by omega) (by omega))
      (isMagnitude_double (by omega) (by omega))
      squareY (by rw [twoPower_double, mul_zero, add_zero]) doubled
  have root := sum.sqrt (isMagnitude_double (by omega) (by omega))
    (isMagnitude_double (by omega) (by omega))
  exact root.convert (isMagnitude_single (by omega) (by omega))
    (isMagnitude_single (by omega) (by omega)) le_rfl le_rfl

/-- A vector is not shorter than its second component. -/
theorem between_hypot_right (first : Between a 0 (twoPower greatest) x)
    (second : Between b (twoPower least) (twoPower greatest) y) :
    Between false (twoPower least) (twoPower (greatest + 1)) (hypot x y) := by
  rw [hypot_comm]
  exact between_hypot_left normal ordered small second first

end PadCapture.Single
