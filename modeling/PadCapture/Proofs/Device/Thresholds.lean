import PadCapture.Proofs.Device.Lenient
import Mathlib.Data.Rat.Floor

/-!
# Axis buttons of arbitrary thresholds

A threshold may have any sign and any size, and it need not be a number at all.  The
constructor replaces what is not finite and the mode takes the magnitude of the rest, so
each axis button compares with some finite limit that is not negative.  Deflections are
multiples of one step; hence such a limit is a positive number of steps, which both
directions of the axis share.
-/

namespace PadCapture

namespace Floating

variable {format : FloatFormat}

theorem exists_value?_of_isFinite {x : Floating format} (finite : x.isFinite = true) :
    ∃ a, x.value? = some a := by
  cases x with
  | nan => cases finite
  | infinite => cases finite
  | finite negative rank => exact ⟨_, rfl⟩

@[simp] theorem isFinite_neg (x : Floating format) : x.neg.isFinite = x.isFinite := by
  cases x <;> rfl

@[simp] theorem abs_neg (x : Floating format) : x.neg.abs = x.abs := by
  cases x <;> rfl

theorem neg_ofMagnitude (magnitude : Rat) :
    (ofMagnitude false magnitude : Floating format).neg = ofMagnitude true magnitude := by
  unfold ofMagnitude
  dsimp only
  split <;> rfl

theorem neg_ofDecimal (digits : Nat) (exponent : Int) :
    (ofDecimal false digits exponent : Floating format).neg = ofDecimal true digits exponent := by
  unfold ofDecimal
  dsimp only
  split
  · rfl
  · split
    · rfl
    · split
      · rfl
      · exact neg_ofMagnitude _

theorem map_neg_readDecimal (text : List Char) :
    (readDecimal false text : Option (Floating format)).map neg = readDecimal true text := by
  unfold readDecimal
  -- With or without a fraction, the sign is only handed on to `ofDecimal`.
  dsimp only
  split
  all_goals
    split
    · rfl
    · split
      · exact congrArg some (neg_ofDecimal _ _)
      · split
        · rw [Option.map_map]
          exact congrArg (Option.map · _) (funext fun exponent => neg_ofDecimal _ _)
        · rfl

/-- The sign in front of a text decides the sign of the number and nothing else. -/
theorem map_neg_readUnsigned (text : List Char) :
    (readUnsigned false text : Option (Floating format)).map neg = readUnsigned true text := by
  unfold readUnsigned
  dsimp only
  split
  · rfl
  · split
    · rfl
    · exact map_neg_readDecimal text

end Floating

/-- Counted in steps of a byte, a limit that is not negative is exceeded from a positive number
of them on. -/
theorem exists_steps {limit : Rat} (nonneg : 0 ≤ limit) :
    ∃ steps : Int, 0 < steps ∧ ∀ moved : Int, limit < (moved : Rat) / 128 ↔ steps ≤ moved := by
  refine ⟨⌊limit * 128⌋ + 1, ?_, ?_⟩
  · have whole : 0 ≤ ⌊limit * 128⌋ := Int.floor_nonneg.mpr (by positivity)
    omega
  · intro moved
    rw [lt_div_iff₀ (by norm_num), ← Int.floor_lt]
    omega

namespace AxisButton

/-- The threshold that an axis button is left with. -/
def keptThreshold (threshold : Single) : Single :=
  if threshold.isFinite then threshold else Binding.defaultThreshold

theorem isFinite_keptThreshold (threshold : Single) :
    (keptThreshold threshold).isFinite = true := by
  unfold keptThreshold
  split
  · assumption
  · exact ButtonDevice.isFinite_defaultThreshold

theorem abs_keptThreshold_neg (threshold : Single) :
    (keptThreshold threshold.neg).abs = (keptThreshold threshold).abs := by
  unfold keptThreshold
  rw [Floating.isFinite_neg]
  split
  · exact Floating.abs_neg threshold
  · rfl

variable (port : Nat) (axis : Axis) (threshold : Single) (positive : Bool) (mode : ThresholdMode)

theorem value_create_eq :
    (create port axis threshold positive mode).value =
      ⟨port, axis, keptThreshold threshold, positive, mode⟩ := by
  unfold create keptThreshold
  split <;> rfl

/-- What a finite threshold amounts to in either mode is a limit that is not negative. -/
theorem exists_limit {kept : Single} (finite : kept.isFinite = true) :
    ∃ limit : Rat, 0 ≤ limit ∧
      (effectiveThreshold ⟨port, axis, kept, positive, mode⟩).value? = some limit := by
  cases mode with
  | fixed => exact ⟨_, by norm_num, value?_tenth⟩
  | stored =>
      obtain ⟨number, exact⟩ := Floating.exists_value?_of_isFinite finite
      exact ⟨|number|, abs_nonneg number, Floating.value?_abs exact⟩

/-- Both directions of an axis are pressed from the same positive number of steps on. -/
theorem exists_steps_status :
    ∃ steps : Int, 0 < steps ∧ ∀ positive adapter,
      (create port axis threshold positive mode).value.status adapter = true ↔
        ∃ state, adapter.state? port = some state ∧
          if positive then steps ≤ centreOffset (state.axis axis)
          else centreOffset (state.axis axis) ≤ -steps := by
  -- The limit does not depend on the direction, so it can be taken from either one.
  obtain ⟨limit, nonneg, exact⟩ :=
    exists_limit port axis true mode (isFinite_keptThreshold threshold)
  obtain ⟨steps, positiveSteps, exceeds⟩ := exists_steps nonneg
  refine ⟨steps, positiveSteps, ?_⟩
  intro positive adapter
  have deflected := isDeflected_iff ⟨port, axis, keptThreshold threshold, positive, mode⟩ exact
    exceeds
  rw [value_create_eq]
  unfold status
  cases adapter.state? port with
  | none => simp
  | some state => simp [deflected]

/-- The sign of a threshold makes no difference. -/
theorem isDeflected_create_neg (value : UInt8) :
    (create port axis threshold.neg positive mode).value.isDeflected value =
      (create port axis threshold positive mode).value.isDeflected value := by
  rw [value_create_eq, value_create_eq]
  cases mode with
  | fixed => rfl
  | stored => simp only [isDeflected, effectiveThreshold, abs_keptThreshold_neg]

theorem status_create_neg (adapter : Adapter) :
    (create port axis threshold.neg positive mode).value.status adapter =
      (create port axis threshold positive mode).value.status adapter := by
  have deflected := isDeflected_create_neg port axis threshold positive mode
  rw [value_create_eq, value_create_eq] at deflected ⊢
  unfold status
  cases adapter.state? port with
  | none => rfl
  | some state => exact deflected (state.axis axis)

/-- A threshold that is not finite makes the button of the default. -/
theorem value_create_of_not_finite {threshold : Single} (wild : threshold.isFinite = false) :
    (create port axis threshold positive mode).value =
      (create port axis Binding.defaultThreshold positive mode).value := by
  simp [value_create_eq, keptThreshold, wild]

end AxisButton

namespace ButtonDevice

/-- Two buttons follow one axis of a port to its two ends.  Moving the axis further out does not
release a button, neither is pressed at the centre, and no state of the port presses both. -/
structure Opposed (port : Nat) (axis : Axis) (upper lower : ButtonDevice) : Prop where
  rises : ∀ {near far : Adapter} {nearState farState : PortState},
    near.state? port = some nearState → far.state? port = some farState →
    nearState.axis axis ≤ farState.axis axis →
    upper.status near = true → upper.status far = true
  falls : ∀ {near far : Adapter} {nearState farState : PortState},
    near.state? port = some nearState → far.state? port = some farState →
    farState.axis axis ≤ nearState.axis axis →
    lower.status near = true → lower.status far = true
  silent : ∀ {adapter : Adapter} {state : PortState},
    adapter.state? port = some state → state.axis axis = axisCentre →
    upper.status adapter = false ∧ lower.status adapter = false
  exclusive : ∀ adapter : Adapter, ¬ (upper.status adapter = true ∧ lower.status adapter = true)

variable (mode : ThresholdMode)

/-- Buttons that are pressed from the same positive number of steps on are opposed. -/
theorem Opposed.of_steps {port : Nat} {axis : Axis} {upper lower : ButtonDevice} {steps : Int}
    (positive : 0 < steps)
    (above : ∀ adapter : Adapter, upper.status adapter = true ↔
      ∃ state, adapter.state? port = some state ∧ steps ≤ centreOffset (state.axis axis))
    (below : ∀ adapter : Adapter, lower.status adapter = true ↔
      ∃ state, adapter.state? port = some state ∧ centreOffset (state.axis axis) ≤ -steps) :
    Opposed port axis upper lower where
  rises := by
    intro near far nearState farState nearShown farShown further pressed
    have order := UInt8.le_iff_toNat_le.mp further
    obtain ⟨state, shown, enough⟩ := (above near).mp pressed
    cases nearShown.symm.trans shown
    refine (above far).mpr ⟨farState, farShown, ?_⟩
    unfold centreOffset at enough ⊢
    omega
  falls := by
    intro near far nearState farState nearShown farShown further pressed
    have order := UInt8.le_iff_toNat_le.mp further
    obtain ⟨state, shown, enough⟩ := (below near).mp pressed
    cases nearShown.symm.trans shown
    refine (below far).mpr ⟨farState, farShown, ?_⟩
    unfold centreOffset at enough ⊢
    omega
  silent := by
    intro adapter state shown resting
    have centred : centreOffset (state.axis axis) = 0 := by rw [resting]; rfl
    refine ⟨Bool.eq_false_iff.mpr ?_, Bool.eq_false_iff.mpr ?_⟩
    · intro pressed
      obtain ⟨other, otherShown, enough⟩ := (above adapter).mp pressed
      cases shown.symm.trans otherShown
      omega
    · intro pressed
      obtain ⟨other, otherShown, enough⟩ := (below adapter).mp pressed
      cases shown.symm.trans otherShown
      omega
  exclusive := by
    rintro adapter ⟨upperPressed, lowerPressed⟩
    obtain ⟨state, shown, high⟩ := (above adapter).mp upperPressed
    obtain ⟨other, otherShown, low⟩ := (below adapter).mp lowerPressed
    cases shown.symm.trans otherShown
    omega

theorem opposed_create (port : Nat) (axis : Axis) (threshold : Single) :
    Opposed port axis (.axis (AxisButton.create port axis threshold true mode).value)
      (.axis (AxisButton.create port axis threshold false mode).value) := by
  obtain ⟨steps, positive, pressed⟩ := AxisButton.exists_steps_status port axis threshold mode
  refine Opposed.of_steps positive ?_ ?_
  · intro adapter
    simpa [status] using pressed true adapter
  · intro adapter
    simpa [status] using pressed false adapter

section Stored

open Params

variable (binding : Params)

/-- The threshold that a device reads from a stored text. -/
def storedThreshold (text : String) : Single :=
  (Floating.parse text).toOption.getD Binding.defaultThreshold

theorem storedThreshold_of_parse {text : String} {number : Single}
    (readable : Floating.parse text = .ok number) : storedThreshold text = number := by
  rw [storedThreshold, readable]
  rfl

theorem value_single_set_threshold (text : String) :
    ((binding.set "threshold" text).single "threshold" Binding.defaultThreshold).value =
      storedThreshold text := by
  have stored := get?_set_self binding "threshold" text
  cases read : (Floating.parse text : Except FloatFault Single) with
  | ok number =>
      rw [value_single_of_parse stored read, storedThreshold_of_parse read]
  | error fault =>
      have unreadable : readSingle text = .error (.float fault) := by rw [readSingle, read]; rfl
      rw [single, value_lookup_of_unreadable stored unreadable, storedThreshold, read]
      rfl

theorem portOf_set {key : String} (different : "port" ≠ key) (text : String) :
    Device.portOf (binding.set key text) = Device.portOf binding :=
  Device.portOf_congr binding (get?_set_of_ne binding different text)

theorem axisOf_set {key : String} (different : "axis" ≠ key) (text : String) (default : Axis) :
    Device.axisOf (binding.set key text) "axis" default = Device.axisOf binding "axis" default :=
  Device.axisOf_congr binding (get?_set_of_ne binding different text) default

/-- A binding with an axis hands a stored threshold to the constructor. -/
theorem value_ofBinding_set_threshold (hasAxis : binding.has "axis" = true) (text : String) :
    (ofBinding mode (binding.set "threshold" text)).value =
      .axis (AxisButton.create (Device.portOf binding).value.val
        (Device.axisOf binding "axis" .stickX).value (storedThreshold text)
        (decide (binding.get? "direction" ≠ some "-")) mode).value := by
  have stillAxis : (binding.set "threshold" text).has "axis" = true := by
    rw [has_set_of_ne binding (by decide), hasAxis]
  rw [value_ofBinding_of_axis mode _ stillAxis, value_single_set_threshold,
    portOf_set binding (by decide), axisOf_set binding (by decide),
    get?_set_of_ne binding (by decide)]

/-- A binding without an axis makes the same mask whatever its threshold is. -/
theorem value_ofBinding_set_threshold_of_mask (noAxis : binding.has "axis" = false)
    (text : String) :
    (ofBinding mode (binding.set "threshold" text)).value = (ofBinding mode binding).value := by
  have stillNone : (binding.set "threshold" text).has "axis" = false := by
    rw [has_set_of_ne binding (by decide), noAxis]
  rw [value_ofBinding_of_mask mode _ stillNone, value_ofBinding_of_mask mode _ noAxis,
    portOf_set binding (by decide), integer, integer, lookup_set_of_ne binding (by decide)]

/-- A binding with an axis and a direction hands both on. -/
theorem value_ofBinding_set_direction (hasAxis : binding.has "axis" = true) (text : String) :
    (ofBinding mode (binding.set "direction" text)).value =
      .axis (AxisButton.create (Device.portOf binding).value.val
        (Device.axisOf binding "axis" .stickX).value
        (binding.single "threshold" Binding.defaultThreshold).value
        (decide (text ≠ "-")) mode).value := by
  have stillAxis : (binding.set "direction" text).has "axis" = true := by
    rw [has_set_of_ne binding (by decide), hasAxis]
  rw [value_ofBinding_of_axis mode _ stillAxis, single, lookup_set_of_ne binding (by decide),
    portOf_set binding (by decide), axisOf_set binding (by decide), get?_set_self, single]
  simp

/-- The directions `+` and `-` of a binding are opposed. -/
theorem opposed_ofBinding (hasAxis : binding.has "axis" = true) :
    Opposed (Device.portOf binding).value.val (Device.axisOf binding "axis" .stickX).value
      (ofBinding mode (binding.set "direction" "+")).value
      (ofBinding mode (binding.set "direction" "-")).value := by
  rw [value_ofBinding_set_direction mode binding hasAxis,
    value_ofBinding_set_direction mode binding hasAxis]
  exact opposed_create mode _ _ _

/-- Any direction means one of these two. -/
theorem value_ofBinding_eq_set_direction (hasAxis : binding.has "axis" = true) :
    (ofBinding mode binding).value = (ofBinding mode (binding.set "direction"
      (if binding.get? "direction" = some "-" then "-" else "+"))).value := by
  rw [value_ofBinding_set_direction mode binding hasAxis,
    value_ofBinding_of_axis mode binding hasAxis]
  by_cases lower : binding.get? "direction" = some "-" <;> simp [lower]

/-- Stored thresholds that make the same button devices make the same devices of all bindings. -/
theorem status_ofBinding_set_threshold {first second : String} {adapter : Adapter}
    (same : ∀ port axis positive,
      (AxisButton.create port axis (storedThreshold first) positive mode).value.status adapter =
        (AxisButton.create port axis (storedThreshold second) positive mode).value.status adapter) :
    (ofBinding mode (binding.set "threshold" first)).value.status adapter =
      (ofBinding mode (binding.set "threshold" second)).value.status adapter := by
  cases hasAxis : binding.has "axis" with
  | true =>
      rw [value_ofBinding_set_threshold mode binding hasAxis,
        value_ofBinding_set_threshold mode binding hasAxis]
      exact same _ _ _
  | false =>
      rw [value_ofBinding_set_threshold_of_mask mode binding hasAxis,
        value_ofBinding_set_threshold_of_mask mode binding hasAxis]

/-- Two texts that differ in their sign are both unreadable, or they store a number and its
negation. -/
theorem storedThreshold_signed (digits : String) :
    storedThreshold ("-" ++ digits) = storedThreshold ("+" ++ digits) ∨
      storedThreshold ("-" ++ digits) = (storedThreshold ("+" ++ digits)).neg := by
  have plus : (Floating.parse ("+" ++ digits) : Except FloatFault Single) =
      Floating.parse.orInvalid (Floating.readUnsigned false digits.toList) := by
    simp [Floating.parse]
  have minus : (Floating.parse ("-" ++ digits) : Except FloatFault Single) =
      Floating.parse.orInvalid (Floating.readUnsigned true digits.toList) := by
    simp [Floating.parse]
  rw [storedThreshold, storedThreshold, plus, minus, ← Floating.map_neg_readUnsigned]
  cases (Floating.readUnsigned false digits.toList : Option Single) with
  | none => exact .inl rfl
  | some number => exact .inr rfl

/-- A stored text that is no finite number makes the device of the text `0.5`. -/
theorem value_ofBinding_set_threshold_of_not_finite {text : String}
    (wild : ∀ number : Single, Floating.parse text = .ok number → number.isFinite = false) :
    (ofBinding mode (binding.set "threshold" text)).value =
      (ofBinding mode (binding.set "threshold" "0.5")).value := by
  cases hasAxis : binding.has "axis" with
  | true =>
      rw [value_ofBinding_set_threshold mode binding hasAxis,
        value_ofBinding_set_threshold mode binding hasAxis,
        storedThreshold_of_parse parse_defaultThreshold]
      cases read : (Floating.parse text : Except FloatFault Single) with
      | ok number =>
          rw [storedThreshold_of_parse read,
            AxisButton.value_create_of_not_finite _ _ _ _ (wild number read)]
      | error fault =>
          rw [storedThreshold, read]
          rfl
  | false =>
      rw [value_ofBinding_set_threshold_of_mask mode binding hasAxis,
        value_ofBinding_set_threshold_of_mask mode binding hasAxis]

end Stored

/-- An axis button does not release when its axis moves further out, is not pressed at the centre
and is never pressed together with the other direction, whatever the threshold is: any number
that a device is made with, and any text or none that a binding stores.  The sign of the
threshold does not matter, and a threshold that is no finite number counts as a half. -/
theorem axis_directions_of_any_threshold (mode : ThresholdMode) :
    (∀ (port : Nat) (axis : Axis) (threshold : Single),
      let device := fun threshold positive =>
        ButtonDevice.axis (AxisButton.create port axis threshold positive mode).value
      Opposed port axis (device threshold true) (device threshold false) ∧
      (∀ positive adapter, (device threshold.neg positive).status adapter =
        (device threshold positive).status adapter) ∧
      (threshold.isFinite = false → ∀ positive,
        device threshold positive = device (.nearest (1 / 2)) positive)) ∧
    (∀ binding : Params,
      let directed := fun direction => (ofBinding mode (binding.set "direction" direction)).value
      let stored := fun text => (ofBinding mode (binding.set "threshold" text)).value
      (binding.has "axis" = true →
        Opposed (Device.portOf binding).value.val (Device.axisOf binding "axis" .stickX).value
          (directed "+") (directed "-") ∧
        (ofBinding mode binding).value =
          directed (if binding.get? "direction" = some "-" then "-" else "+")) ∧
      (∀ (first second : String) (number : Single),
        Floating.parse first = .ok number → Floating.parse second = .ok number.neg →
        ∀ adapter, (stored first).status adapter = (stored second).status adapter) ∧
      (∀ digits adapter,
        (stored ("-" ++ digits)).status adapter = (stored ("+" ++ digits)).status adapter) ∧
      (∀ text,
        (∀ number : Single, Floating.parse text = .ok number → number.isFinite = false) →
        stored text = stored "0.5")) := by
  refine ⟨?made, ?read⟩
  case made =>
    intro port axis threshold device
    refine ⟨opposed_create mode port axis threshold, ?_, ?_⟩
    · intro positive adapter
      exact AxisButton.status_create_neg port axis threshold positive mode adapter
    · intro wild positive
      exact congrArg _ (AxisButton.value_create_of_not_finite port axis positive mode wild)
  case read =>
    intro binding directed stored
    refine ⟨?_, ?_, ?_, ?_⟩
    · intro hasAxis
      exact ⟨opposed_ofBinding mode binding hasAxis,
        value_ofBinding_eq_set_direction mode binding hasAxis⟩
    · intro first second number firstRead secondRead adapter
      apply status_ofBinding_set_threshold
      intro port axis positive
      rw [storedThreshold_of_parse firstRead, storedThreshold_of_parse secondRead,
        AxisButton.status_create_neg]
    · intro digits adapter
      apply status_ofBinding_set_threshold
      intro port axis positive
      rcases storedThreshold_signed digits with same | negated
      · rw [same]
      · rw [negated, AxisButton.status_create_neg]
    · intro text wild
      exact value_ofBinding_set_threshold_of_not_finite mode binding wild

end ButtonDevice

end PadCapture
