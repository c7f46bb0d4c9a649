import PadCapture.Device.Stick
import PadCapture.Proofs.Device.Thresholds
import PadCapture.Proofs.Floating.Bounds

/-!
# Directions of sticks

A stick may be made of any binding and any default deadzone.  Its deadzone ends up between zero
and the largest one.  Each component of a vector is then followed through the divisions with its
sign and with powers of two that bound its magnitude: a component whose byte is at the centre
stays zero, and as soon as one byte is off the centre every divisor is away from zero.  A length
that exceeds the deadzone exceeds it by a gap, so that no component is scaled down to zero.
-/

namespace PadCapture

open FloatFormat Floating

theorem centreOffset_eq_zero_iff (value : UInt8) : centreOffset value = 0 ↔ value = axisCentre := by
  rw [← UInt8.toNat_inj]
  unfold centreOffset
  change _ ↔ value.toNat = 128
  omega

theorem centreOffset_lt_zero_iff (value : UInt8) : centreOffset value < 0 ↔ value < axisCentre := by
  rw [UInt8.lt_iff_toNat_lt]
  unfold centreOffset
  change _ ↔ value.toNat < 128
  omega

theorem abs_centreOffset_le (value : UInt8) : |centreOffset value| ≤ 128 := by
  have bound := value.toNat_lt
  unfold centreOffset
  exact abs_le.mpr (by omega)

namespace Stick

/-- A finite number above zero.  Any number can be divided by it. -/
def IsPositive (number : Single) : Prop := ∃ q, number.value? = some q ∧ 0 < q

/-- A finite number on the side of the centre that its byte is on.  It may be zero on either side,
and is zero where the byte is at the centre. -/
structure Follows (value : UInt8) (component : Single) : Prop where
  finite : component.isFinite = true
  side : ∀ q, component.value? = some q →
    q = 0 ∨ (0 < q ∧ axisCentre < value) ∨ (q < 0 ∧ value < axisCentre)
  centred : value = axisCentre → component.value? = some 0

/-- The state of the stick's port. -/
def shown (stick : Stick) (adapter : Adapter) : PortState :=
  (adapter.state? stick.port).getD .idle

/-- The two deflections before anything is done to them. -/
def rawVector (stick : Stick) (adapter : Adapter) : StickVector :=
  ⟨normalize ((stick.shown adapter).axis stick.axisX),
    normalize ((stick.shown adapter).axis stick.axisY)⟩

def unitVector (stick : Stick) (adapter : Adapter) : StickVector :=
  (stick.rawVector adapter).clampToUnit

theorem status_eq (stick : Stick) (adapter : Adapter) :
    stick.status adapter = (stick.unitVector adapter).applyDeadzone stick.deadzone := rfl

/-- The vector is longer than the deadzone. -/
def IsBeyond (stick : Stick) (adapter : Adapter) : Prop :=
  (stick.unitVector adapter).length.atMost stick.deadzone = false

/-- What a stick reads is a direction that the bytes of its two axes account for. -/
structure Sane (stick : Stick) (adapter : Adapter) : Prop where
  deadzone_nonneg : (Floating.zero false).atMost stick.deadzone = true
  deadzone_le : stick.deadzone.atMost largestDeadzone = true
  /-- A vector that is pulled back onto the unit circle is divided by its length. -/
  unit_divisor : Floating.less (.nearest 1) (stick.rawVector adapter).length = true →
    IsPositive (stick.rawVector adapter).length
  /-- A vector beyond the deadzone is scaled by a quotient. -/
  deadzone_divisor : stick.IsBeyond adapter →
    IsPositive ((stick.unitVector adapter).length.mul
      (Floating.sub (.nearest 1) stick.deadzone))
  x_follows : Follows ((stick.shown adapter).axis stick.axisX) (stick.status adapter).x
  y_follows : Follows ((stick.shown adapter).axis stick.axisY) (stick.status adapter).y
  /-- Off the centre a component is zero in the deadzone only. -/
  x_moves : stick.IsBeyond adapter → (stick.shown adapter).axis stick.axisX ≠ axisCentre →
    (stick.status adapter).x.value? ≠ some 0
  y_moves : stick.IsBeyond adapter → (stick.shown adapter).axis stick.axisY ≠ axisCentre →
    (stick.status adapter).y.value? ≠ some 0
  not_left_and_right : ¬ (stick.directionStatus adapter .left = true ∧
    stick.directionStatus adapter .right = true)
  not_up_and_down : ¬ (stick.directionStatus adapter .up = true ∧
    stick.directionStatus adapter .down = true)

/-- A component on the side of the centre that its byte is on, within the bounds unless the byte
is at the centre. -/
inductive Leans (value : UInt8) (low high : Rat) (component : Single) : Prop where
  | centred (centre : value = axisCentre) (zero : Between false 0 0 component)
  | moved (away : value ≠ axisCentre)
      (bounded : Between (decide (value < axisCentre)) low high component)

theorem isPositive_of_between {number : Single} {low high : Rat}
    (bounded : Between false low high number) (positive : 0 < low) : IsPositive number := by
  obtain ⟨q, exactValue, above, -⟩ := bounded.exists_value?
  exact ⟨q, exactValue, positive.trans_le above⟩

section Components

variable {value : UInt8} {component divisor factor : Single} {lowX highX lowY highY low high : Rat}

theorem Leans.weaken (leans : Leans value lowX highX component) (above : low ≤ lowX)
    (below : highX ≤ high) : Leans value low high component := by
  cases leans with
  | centred centre zero => exact .centred centre zero
  | moved away bounded => exact .moved away (bounded.weaken above below)

theorem Leans.of_away (leans : Leans value low high component) (away : value ≠ axisCentre) :
    Between (decide (value < axisCentre)) low high component := by
  cases leans with
  | centred centre => exact absurd centre away
  | moved _ bounded => exact bounded

theorem Leans.between (leans : Leans value low high component) (lowNonneg : 0 ≤ low)
    (highNonneg : 0 ≤ high) : Between (decide (value < axisCentre)) 0 high component := by
  cases leans with
  | centred centre zero =>
      have side : decide (value < axisCentre) = false := by
        rw [centre]
        rfl
      rw [side]
      exact zero.weaken le_rfl highNonneg
  | moved _ bounded => exact bounded.weaken lowNonneg le_rfl

theorem Leans.div (leans : Leans value lowX highX component)
    (bounded : Between false lowY highY divisor) (lowHeld : FloatFormat.single.IsMagnitude low)
    (highHeld : FloatFormat.single.IsMagnitude high) (positive : 0 < lowY)
    (above : low ≤ lowX / highY) (below : highX / lowY ≤ high) :
    Leans value low high (component.div divisor) := by
  have zeroHeld := FloatFormat.single.isMagnitude_zero
  cases leans with
  | centred centre zero =>
      exact .centred centre (zero.div zeroHeld zeroHeld bounded positive (by simp) (by simp))
  | moved away moved =>
      have quotient := moved.div lowHeld highHeld bounded positive above below
      rw [Bool.bne_false] at quotient
      exact .moved away quotient

theorem Leans.mul (leans : Leans value lowX highX component)
    (bounded : Between false lowY highY factor) (lowHeld : FloatFormat.single.IsMagnitude low)
    (highHeld : FloatFormat.single.IsMagnitude high) (nonneg : 0 ≤ lowY)
    (above : low ≤ lowX * lowY) (below : highX * highY ≤ high) :
    Leans value low high (component.mul factor) := by
  have zeroHeld := FloatFormat.single.isMagnitude_zero
  cases leans with
  | centred centre zero =>
      exact .centred centre (zero.mul zeroHeld zeroHeld bounded nonneg (by simp) (by simp))
  | moved away moved =>
      have product := moved.mul lowHeld highHeld bounded nonneg above below
      rw [Bool.bne_false] at product
      exact .moved away product

end Components

section Normalized

private theorem value?_offset_ofNat :
    ∀ byte : Fin 256, ((Single.ofByte (UInt8.ofNat byte.val)).sub (.nearest 128)).value? =
      some ((byte.val : Rat) - 128) := by
  decide +kernel

theorem value?_offset (value : UInt8) :
    ((Single.ofByte value).sub (.nearest 128)).value? = some (centreOffset value : Rat) := by
  have exactValue := value?_offset_ofNat ⟨value.toNat, value.toNat_lt⟩
  simp only [UInt8.ofNat_toNat] at exactValue
  rw [exactValue]
  simp [centreOffset]

theorem leans_offset (value : UInt8) :
    Leans value 1 128 ((Single.ofByte value).sub (.nearest 128)) := by
  by_cases centre : value = axisCentre
  · have still : (Single.ofByte axisCentre).sub (.nearest 128) = .zero false := by
      decide +kernel
    refine .centred centre ?_
    rw [centre, still]
    exact between_zero false
  · have nonzero : centreOffset value ≠ 0 := fun zero =>
      centre ((centreOffset_eq_zero_iff value).mp zero)
    have steps := Between.of_value? (value?_offset value) (by exact_mod_cast nonzero)
    have side : decide ((centreOffset value : Rat) < 0) = decide (value < axisCentre) :=
      decide_eq_decide.mpr (by rw [Int.cast_lt_zero, centreOffset_lt_zero_iff])
    rw [side] at steps
    exact .moved centre (steps.weaken (by exact_mod_cast Int.one_le_abs nonzero)
      (by exact_mod_cast abs_centreOffset_le value))

theorem value?_fullDeflection : fullDeflection.value? = some 95 := by
  decide +kernel

theorem normalize_axisCentre : normalize axisCentre = .zero false := by
  decide +kernel

theorem leans_normalize (value : UInt8) :
    Leans value (twoPower (-7)) (twoPower 1) (normalize value) :=
  (leans_offset value).div (Between.of_pos value?_fullDeflection (by norm_num))
    (isMagnitude_single (by decide) (by decide)) (isMagnitude_single (by decide) (by decide))
    (by norm_num) (by norm_num [twoPower]) (by norm_num [twoPower])

end Normalized

section Vectors

variable {vector : StickVector} {valueX valueY : UInt8} {least greatest : Int}

/-- A vector is at least as long as a component whose byte is off the centre. -/
theorem between_length (leansX : Leans valueX (twoPower least) (twoPower greatest) vector.x)
    (leansY : Leans valueY (twoPower least) (twoPower greatest) vector.y)
    (away : valueX ≠ axisCentre ∨ valueY ≠ axisCentre)
    (normal : -126 ≤ least) (ordered : least ≤ greatest) (small : greatest < 127) :
    Between false (twoPower least) (twoPower (greatest + 1)) vector.length := by
  have leastPos := twoPower_pos least
  have greatestPos := twoPower_pos greatest
  have anyX := leansX.between leastPos.le greatestPos.le
  have anyY := leansY.between leastPos.le greatestPos.le
  rcases away with awayX | awayY
  · exact Single.between_hypot_left normal ordered small (leansX.of_away awayX) anyY
  · exact Single.between_hypot_right normal ordered small anyX (leansY.of_away awayY)

/-- The clamp either divides by a length that is within the bounds or changes nothing. -/
theorem leans_clampToUnit (leansX : Leans valueX (twoPower (-7)) (twoPower 1) vector.x)
    (leansY : Leans valueY (twoPower (-7)) (twoPower 1) vector.y)
    (away : valueX ≠ axisCentre ∨ valueY ≠ axisCentre) :
    Leans valueX (twoPower (-9)) (twoPower 8) vector.clampToUnit.x ∧
      Leans valueY (twoPower (-9)) (twoPower 8) vector.clampToUnit.y := by
  have length := between_length leansX leansY away (by decide) (by decide) (by decide)
  have lowHeld : FloatFormat.single.IsMagnitude (twoPower (-9)) :=
    isMagnitude_single (by decide) (by decide)
  have highHeld : FloatFormat.single.IsMagnitude (twoPower 8) :=
    isMagnitude_single (by decide) (by decide)
  unfold StickVector.clampToUnit
  dsimp only
  split
  · exact ⟨leansX.div length lowHeld highHeld (twoPower_pos _) (by norm_num [twoPower])
        (by norm_num [twoPower]),
      leansY.div length lowHeld highHeld (twoPower_pos _) (by norm_num [twoPower])
        (by norm_num [twoPower])⟩
  · exact ⟨leansX.weaken (by norm_num [twoPower]) (by norm_num [twoPower]),
      leansY.weaken (by norm_num [twoPower]) (by norm_num [twoPower])⟩

section Deadzone

variable {length deadzone : Single} {d : Rat}
  (bounded : Between false (twoPower (-9)) (twoPower 9) length)
  (exactValue : deadzone.value? = some d) (nonneg : 0 ≤ d) (room : twoPower (-7) ≤ 1 - d)

include bounded exactValue nonneg room

theorem between_deadzoneDivisor :
    Between false (twoPower (-16)) (twoPower 9)
      (length.mul (Floating.sub (.nearest 1) deadzone)) := by
  have one : (Floating.nearest 1 : Single).value? = some 1 := by
    decide +kernel
  have remaining : Between false (twoPower (-7)) (twoPower 0)
      (Floating.sub (.nearest 1) deadzone) :=
    Between.sub_of_lt (isMagnitude_single (by decide) (by decide))
      (isMagnitude_single (by decide) (by decide)) one exactValue
      (by have := twoPower_pos (-7); linarith) room (by norm_num [twoPower]; exact nonneg)
  exact bounded.mul (isMagnitude_single (by decide) (by decide))
    (isMagnitude_single (by decide) (by decide)) remaining (twoPower_pos _).le
    (by norm_num [twoPower]) (by norm_num [twoPower])

theorem between_deadzoneScale (beyond : length.atMost deadzone = false) :
    Between false (twoPower (-42)) (twoPower 25) (StickVector.deadzoneScale length deadzone) := by
  have divisor := between_deadzoneDivisor bounded exactValue nonneg room
  obtain ⟨r, exactLength, above, below⟩ := bounded.exists_value?
  have longer : d < r := by
    rw [← not_le, ← atMost_iff_of_value? exactLength exactValue, beyond]
    exact Bool.false_ne_true
  have gap : twoPower (-10 - 23) ≤ r - d := twoPower_le_sub exactLength exactValue longer above
  have numerator : Between false (twoPower (-33)) (twoPower 9) (length.sub deadzone) :=
    Between.sub_of_lt (isMagnitude_single (by decide) (by decide))
      (isMagnitude_single (by decide) (by decide)) exactLength exactValue longer gap (by linarith)
  exact numerator.div (isMagnitude_single (by decide) (by decide))
    (isMagnitude_single (by decide) (by decide)) divisor (twoPower_pos _)
    (by norm_num [twoPower]) (by norm_num [twoPower])

end Deadzone

end Vectors

section Readings

theorem follows_of_value?_zero (value : UInt8) {component : Single}
    (vanishes : component.value? = some 0) : Follows value component where
  finite := isFinite_of_value? vanishes
  side := by
    intro q exactValue
    rw [vanishes] at exactValue
    cases exactValue
    exact .inl rfl
  centred := fun _ => vanishes

variable {value : UInt8} {component : Single} {low high : Rat}

theorem Leans.ne_zero (leans : Leans value low high component) (positive : 0 < low)
    (away : value ≠ axisCentre) : component.value? ≠ some 0 := by
  obtain ⟨rank, above, -⟩ := leans.of_away away
  intro vanishes
  have magnitudePos := positive.trans_le above
  have signed := Option.some.inj vanishes
  unfold signedValue at signed
  split at signed <;> linarith

theorem Leans.follows (leans : Leans value low high component) : Follows value component := by
  cases leans with
  | centred centre zero =>
      obtain ⟨q, exactValue, above, below⟩ := zero.exists_value?
      rw [below.antisymm above] at exactValue
      exact follows_of_value?_zero value exactValue
  | moved away bounded =>
      obtain ⟨rank, -, -⟩ := bounded
      have nonneg := FloatFormat.single.magnitude_nonneg rank
      refine ⟨rfl, ?_, fun centre => absurd centre away⟩
      rintro q ⟨⟩
      rcases nonneg.eq_or_lt with zero | positive
      · refine .inl ?_
        unfold signedValue
        split <;> linarith
      · by_cases lower : value < axisCentre
        · simp only [signedValue, lower, decide_true, if_true, and_true]
          exact .inr (.inr (by linarith))
        · have upper : axisCentre < value :=
            UInt8.lt_of_le_of_ne (UInt8.not_lt.mp lower) (Ne.symm away)
          simp only [signedValue, lower, decide_false, Bool.false_eq_true, if_false]
          exact .inr (.inl ⟨positive, upper⟩)

/-- Both axes are at the centre, and the vector stays at rest. -/
structure AtRest (stick : Stick) (adapter : Adapter) : Prop where
  raw : stick.rawVector adapter = ⟨.zero false, .zero false⟩
  unit : stick.unitVector adapter = ⟨.zero false, .zero false⟩

/-- Some axis is off the centre, and the vector is neither too short nor too long to be divided by
its length. -/
structure OffCentre (stick : Stick) (adapter : Adapter) : Prop where
  raw_length : Between false (twoPower (-7)) (twoPower 2) (stick.rawVector adapter).length
  unit_x : Leans ((stick.shown adapter).axis stick.axisX) (twoPower (-9)) (twoPower 8)
    (stick.unitVector adapter).x
  unit_y : Leans ((stick.shown adapter).axis stick.axisY) (twoPower (-9)) (twoPower 8)
    (stick.unitVector adapter).y
  unit_length : Between false (twoPower (-9)) (twoPower 9) (stick.unitVector adapter).length

variable (stick : Stick) (adapter : Adapter)

theorem atRest_or_offCentre : stick.AtRest adapter ∨ stick.OffCentre adapter := by
  by_cases away : (stick.shown adapter).axis stick.axisX ≠ axisCentre ∨
      (stick.shown adapter).axis stick.axisY ≠ axisCentre
  · have rawX : Leans ((stick.shown adapter).axis stick.axisX) (twoPower (-7)) (twoPower 1)
        (stick.rawVector adapter).x := leans_normalize _
    have rawY : Leans ((stick.shown adapter).axis stick.axisY) (twoPower (-7)) (twoPower 1)
        (stick.rawVector adapter).y := leans_normalize _
    obtain ⟨unitX, unitY⟩ := leans_clampToUnit rawX rawY away
    exact .inr ⟨between_length rawX rawY away (by decide) (by decide) (by decide), unitX, unitY,
      between_length unitX unitY away (by decide) (by decide) (by decide)⟩
  · obtain ⟨centreX, centreY⟩ := not_or.mp away
    have raw : stick.rawVector adapter = ⟨.zero false, .zero false⟩ := by
      rw [rawVector, not_not.mp centreX, not_not.mp centreY, normalize_axisCentre]
    have unit : StickVector.clampToUnit ⟨.zero false, .zero false⟩ =
        ⟨.zero false, .zero false⟩ := by
      decide +kernel
    exact .inl ⟨raw, by rw [unitVector, raw, unit]⟩

variable {stick} {adapter}

theorem AtRest.length (rest : stick.AtRest adapter) :
    (stick.unitVector adapter).length = .zero false := by
  rw [rest.unit]
  decide +kernel

theorem unit_divisor_isPositive
    (longer : Floating.less (.nearest 1) (stick.rawVector adapter).length = true) :
    IsPositive (stick.rawVector adapter).length := by
  rcases stick.atRest_or_offCentre adapter with rest | off
  · have short : Floating.less (.nearest 1)
        (StickVector.length ⟨.zero false, .zero false⟩) = false := by
      decide +kernel
    rw [rest.raw, short] at longer
    cases longer
  · exact isPositive_of_between off.raw_length (twoPower_pos _)

section Deadzone

variable {d : Rat} (exactValue : stick.deadzone.value? = some d) (nonneg : 0 ≤ d)
  (room : twoPower (-7) ≤ 1 - d)

include exactValue nonneg

theorem AtRest.not_isBeyond (rest : stick.AtRest adapter) : ¬ stick.IsBeyond adapter := by
  rw [IsBeyond, Bool.not_eq_false, rest.length,
    atMost_iff_of_value? (value?_zero false) exactValue]
  exact nonneg

include room

theorem deadzone_divisor_isPositive
    (beyond : stick.IsBeyond adapter) :
    IsPositive ((stick.unitVector adapter).length.mul
      (Floating.sub (.nearest 1) stick.deadzone)) := by
  rcases stick.atRest_or_offCentre adapter with rest | off
  · exact absurd beyond (rest.not_isBeyond exactValue nonneg)
  · exact isPositive_of_between
      (between_deadzoneDivisor off.unit_length exactValue nonneg room) (twoPower_pos _)

/-- Beyond the deadzone both components are scaled by one factor. -/
theorem leans_status (beyond : stick.IsBeyond adapter) :
    Leans ((stick.shown adapter).axis stick.axisX) (twoPower (-51)) (twoPower 33)
        (stick.status adapter).x ∧
      Leans ((stick.shown adapter).axis stick.axisY) (twoPower (-51)) (twoPower 33)
        (stick.status adapter).y := by
  rcases stick.atRest_or_offCentre adapter with rest | off
  · exact absurd beyond (rest.not_isBeyond exactValue nonneg)
  · have scale := between_deadzoneScale off.unit_length exactValue nonneg room beyond
    have lowHeld : FloatFormat.single.IsMagnitude (twoPower (-51)) :=
      isMagnitude_single (by decide) (by decide)
    have highHeld : FloatFormat.single.IsMagnitude (twoPower 33) :=
      isMagnitude_single (by decide) (by decide)
    have lowest : twoPower (-51) ≤ twoPower (-9) * twoPower (-42) := by norm_num [twoPower]
    have highest : twoPower 8 * twoPower 25 ≤ twoPower 33 := by norm_num [twoPower]
    have scaled : stick.status adapter =
        ⟨(stick.unitVector adapter).x.mul
            (StickVector.deadzoneScale (stick.unitVector adapter).length stick.deadzone),
          (stick.unitVector adapter).y.mul
            (StickVector.deadzoneScale (stick.unitVector adapter).length stick.deadzone)⟩ := by
      rw [status_eq, StickVector.applyDeadzone, beyond]
      rfl
    rw [scaled]
    exact ⟨off.unit_x.mul scale lowHeld highHeld (twoPower_pos _).le lowest highest,
      off.unit_y.mul scale lowHeld highHeld (twoPower_pos _).le lowest highest⟩

theorem status_follows :
    Follows ((stick.shown adapter).axis stick.axisX) (stick.status adapter).x ∧
      Follows ((stick.shown adapter).axis stick.axisY) (stick.status adapter).y := by
  by_cases beyond : stick.IsBeyond adapter
  · obtain ⟨leansX, leansY⟩ := leans_status exactValue nonneg room beyond
    exact ⟨leansX.follows, leansY.follows⟩
  · have within : stick.status adapter = ⟨.zero false, .zero false⟩ := by
      rw [status_eq, StickVector.applyDeadzone, if_pos (Bool.of_not_eq_false beyond)]
    rw [within]
    exact ⟨follows_of_value?_zero _ (value?_zero false),
      follows_of_value?_zero _ (value?_zero false)⟩

end Deadzone

end Readings

theorem value?_largestDeadzone : largestDeadzone.value? = some (16609444 / 16777216) := by
  decide +kernel

theorem value?_directionThreshold : directionThreshold.value? = some (13421773 / 33554432) := by
  decide +kernel

/-- A component does not exceed the threshold in both directions. -/
theorem not_opposite {component : Single} (finite : component.isFinite = true) :
    ¬ (component.less directionThreshold.neg = true ∧
      directionThreshold.less component = true) := by
  obtain ⟨q, exactValue⟩ := exists_value?_of_isFinite finite
  rintro ⟨low, high⟩
  rw [less_iff_of_value? exactValue (value?_neg value?_directionThreshold)] at low
  rw [less_iff_of_value? value?_directionThreshold exactValue] at high
  linarith

theorem sane_of_deadzone (stick : Stick) (adapter : Adapter) {d : Rat}
    (exactValue : stick.deadzone.value? = some d) (nonneg : 0 ≤ d)
    (le : d ≤ 16609444 / 16777216) : stick.Sane adapter := by
  have room : twoPower (-7) ≤ 1 - d := by
    norm_num [twoPower]
    linarith
  obtain ⟨followsX, followsY⟩ :
      Follows ((stick.shown adapter).axis stick.axisX) (stick.status adapter).x ∧
        Follows ((stick.shown adapter).axis stick.axisY) (stick.status adapter).y :=
    status_follows exactValue nonneg room
  exact {
    deadzone_nonneg := (atMost_iff_of_value? (value?_zero false) exactValue).mpr nonneg
    deadzone_le := (atMost_iff_of_value? exactValue value?_largestDeadzone).mpr le
    unit_divisor := unit_divisor_isPositive
    deadzone_divisor := deadzone_divisor_isPositive exactValue nonneg room
    x_follows := followsX
    y_follows := followsY
    x_moves := fun beyond =>
      (leans_status exactValue nonneg room beyond).1.ne_zero (twoPower_pos _)
    y_moves := fun beyond =>
      (leans_status exactValue nonneg room beyond).2.ne_zero (twoPower_pos _)
    not_left_and_right := not_opposite followsX.finite
    not_up_and_down := fun both => not_opposite followsY.finite both.symm }

/-- The constructor puts some finite deadzone between the two ends. -/
theorem exists_value?_deadzone (port : Nat) (axisX axisY : Axis) (deadzone : Single) :
    ∃ d, (create port axisX axisY deadzone).value.deadzone.value? = some d ∧
      0 ≤ d ∧ d ≤ 16609444 / 16777216 := by
  have ends : (0 : Rat) ≤ 16609444 / 16777216 := by norm_num
  unfold create
  split
  · rename_i finite
    obtain ⟨d, exactValue⟩ := exists_value?_of_isFinite finite
    exact exists_value?_clamp exactValue (value?_zero false) value?_largestDeadzone ends
  · exact exists_value?_clamp (value?_zero false) (value?_zero false) value?_largestDeadzone ends

theorem sane_create (port : Nat) (axisX axisY : Axis) (deadzone : Single) (adapter : Adapter) :
    (create port axisX axisY deadzone).value.Sane adapter := by
  obtain ⟨d, exactValue, nonneg, le⟩ := exists_value?_deadzone port axisX axisY deadzone
  exact sane_of_deadzone _ adapter exactValue nonneg le

/-- Every binding and every default deadzone, be it no number at all, make a stick whose readings
are directions: the deadzone is in its range, nothing is divided by zero, both components are
finite and on the side that their bytes are on, beyond the deadzone only a byte at the centre
gives zero, and no two opposite directions are reported. -/
theorem stick_of_any_binding_sane (defaultDeadzone : Single) (binding : Params)
    (adapter : Adapter) : (ofBinding defaultDeadzone binding).value.Sane adapter := by
  simp only [ofBinding, Logged.value_bind]
  exact sane_create _ _ _ _ adapter

/-- Where neither the stored deadzone nor the default is finite the stick has none, and one that
is too large is cut down. -/
example :
    (ofBinding .nan (Params.ofList [("deadzone", "inf")])).value.deadzone = .zero false ∧
      (ofBinding .nan (Params.ofList [("deadzone", "7")])).value.deadzone = largestDeadzone := by
  decide +kernel

end Stick

end PadCapture
