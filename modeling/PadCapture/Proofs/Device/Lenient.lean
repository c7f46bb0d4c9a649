import PadCapture.Proofs.Adapter.Queues
import PadCapture.Proofs.Device.Buttons

/-!
# Button devices of arbitrary bindings

A binding may have been damaged or written by hand.  Whatever it stores, it makes a button
device: each of the port, the axis and the mask that is missing, unreadable or unknown gives
way to its own default, and every direction but `-` means the upper half of the axis.
-/

namespace PadCapture

open Params

namespace Device

variable (binding : Params)

theorem portOf_congr {other : Params} (same : other.get? "port" = binding.get? "port") :
    portOf other = portOf binding := by
  rw [portOf, portOf, integer, integer, lookup_congr same]

theorem axisOf_congr {other : Params} {key : String} (same : other.get? key = binding.get? key)
    (default : Axis) : axisOf other key default = axisOf binding key default := by
  rw [axisOf, axisOf, integer, integer, lookup_congr same]

theorem portOfNumber?_eq_some_iff (number : Int) (port : Port) :
    portOfNumber? number = some port ↔ (port.val : Int) = number := by
  constructor
  · intro known
    unfold portOfNumber? at known
    split at known
    · cases known
    · have same := Port.val_of_ofNat? known
      omega
  · rintro rfl
    simp [portOfNumber?]

theorem ofIndex?_eq_some_iff (number : Int) (axis : Axis) :
    Axis.ofIndex? number = some axis ↔ (axis.index.val : Int) = number := by
  constructor
  · intro known
    unfold Axis.ofIndex? at known
    simpa using List.find?_some known
  · rintro rfl
    exact ofIndex?_index axis

theorem value_portOf_eq :
    (portOf binding).value =
      (portOfNumber? (binding.integer .int64 "port" 0).value).getD .first := by
  rw [portOf, Logged.value_bind]
  cases portOfNumber? (binding.integer .int64 "port" 0).value <;> rfl

theorem value_axisOf_eq (key : String) (default : Axis) :
    (axisOf binding key default).value =
      (Axis.ofIndex? (binding.integer .int32 key default.index.val).value).getD default := by
  rw [axisOf, Logged.value_bind]
  cases Axis.ofIndex? (binding.integer .int32 key default.index.val).value <;> rfl

/-- A device reads the stored port, or the first one if no port of the adapter is stored. -/
theorem storedOr_portOf :
    StoredOr (fun port : Port => binding.Stores .int64 "port" port.val) .first
      (portOf binding).value := by
  rw [value_portOf_eq]
  exact (storedOr_integer (by decide) binding "port" 0).ofNumber (Stores.unique (by decide))
    portOfNumber?_eq_some_iff rfl

/-- A device reads the stored axis, or the default if no axis of a pad is stored. -/
theorem storedOr_axisOf (key : String) (default : Axis) :
    StoredOr (fun axis : Axis => binding.Stores .int32 key axis.index.val) default
      (axisOf binding key default).value := by
  rw [value_axisOf_eq]
  exact (storedOr_integer (by decide) binding key default.index.val).ofNumber
    (Stores.unique (by decide)) ofIndex?_eq_some_iff (ofIndex?_index default)

end Device

namespace AxisButton

/-- The threshold may be replaced, and everything else is as asked for. -/
theorem exists_value_create (port : Nat) (axis : Axis) (threshold : Single) (positive : Bool)
    (mode : ThresholdMode) :
    ∃ kept, (create port axis threshold positive mode).value =
      ⟨port, axis, kept, positive, mode⟩ := by
  unfold create
  split
  · exact ⟨threshold, rfl⟩
  · exact ⟨Binding.defaultThreshold, rfl⟩

theorem isDeflected_fixed_iff_byte (port : Nat) (axis : Axis) (threshold : Single)
    (positive : Bool) (value : UInt8) :
    (isDeflected ⟨port, axis, threshold, positive, .fixed⟩ value = true) ↔
      if positive then 141 ≤ value.toNat else value.toNat ≤ 115 := by
  rw [isDeflected_fixed_iff, pressSteps, centreOffset]
  cases positive with
  | true => simp only [if_true]; omega
  | false => simp only [Bool.false_eq_true, if_false]; omega

end AxisButton

namespace ButtonDevice

variable (mode : ThresholdMode) (binding : Params)

/-- A direction that is missing or unknown means the upper half. -/
theorem value_directionOf_eq :
    (directionOf binding).value = decide (binding.get? "direction" ≠ some "-") := by
  unfold directionOf getD
  cases stored : binding.get? "direction" with
  | none => rfl
  | some direction =>
      by_cases lower : direction = "-"
      · subst lower
        rfl
      · by_cases upper : direction = "+" <;> simp [lower, upper]

/-- A mask is pressed when it has a button and all its buttons are shown. -/
theorem status_mask_iff (port : Port) (buttons : Buttons) (adapter : Adapter) :
    (mask port buttons).status adapter = true ↔
      buttons.mask ≠ 0 ∧ (adapter.state port).buttons.mask &&& buttons.mask = buttons.mask := by
  simp [status, Adapter.state?, PortState.isPressed, Buttons.isEmpty, Buttons.contains]

/-- A binding without an axis makes a mask of the known buttons among its number. -/
theorem value_ofBinding_of_mask (noAxis : binding.has "axis" = false) :
    (ofBinding mode binding).value = .mask (Device.portOf binding).value
      (Buttons.mk (.ofNat (binding.integer .nat16 "button" 0).value.toNat)).known := by
  simp [ofBinding, ofMaskBinding, noAxis]

/-- A binding with an axis is handed to the constructor with all that was read from it. -/
theorem value_ofBinding_of_axis (hasAxis : binding.has "axis" = true) :
    (ofBinding mode binding).value =
      .axis (AxisButton.create (Device.portOf binding).value.val
        (Device.axisOf binding "axis" .stickX).value
        (binding.single "threshold" Binding.defaultThreshold).value
        (decide (binding.get? "direction" ≠ some "-")) mode).value := by
  simp only [ofBinding, ofAxisBinding, Logged.value_bind, Logged.value_pure, hasAxis, if_true,
    value_directionOf_eq]

/-- A binding with an axis makes a button of this axis, whatever else it stores. -/
theorem exists_value_ofBinding_of_axis (hasAxis : binding.has "axis" = true) :
    ∃ threshold, (ofBinding mode binding).value =
      .axis ⟨(Device.portOf binding).value, (Device.axisOf binding "axis" .stickX).value,
        threshold, binding.get? "direction" ≠ some "-", mode⟩ := by
  obtain ⟨threshold, created⟩ := AxisButton.exists_value_create
    (Device.portOf binding).value.val (Device.axisOf binding "axis" .stickX).value
    (binding.single "threshold" Binding.defaultThreshold).value
    (decide (binding.get? "direction" ≠ some "-")) mode
  exact ⟨threshold, by rw [value_ofBinding_of_axis mode binding hasAxis, created]⟩

theorem exists_status_ofBinding_of_axis (hasAxis : binding.has "axis" = true) :
    ∃ threshold, ∀ adapter : Adapter, (ofBinding mode binding).value.status adapter =
      AxisButton.isDeflected
        ⟨(Device.portOf binding).value, (Device.axisOf binding "axis" .stickX).value,
          threshold, binding.get? "direction" ≠ some "-", mode⟩
        ((adapter.state (Device.portOf binding).value).axis
          (Device.axisOf binding "axis" .stickX).value) := by
  obtain ⟨threshold, made⟩ := exists_value_ofBinding_of_axis mode binding hasAxis
  refine ⟨threshold, ?_⟩
  intro adapter
  simp [made, status, AxisButton.status, Adapter.state?]

/-- Next to an axis, what is stored under `button` makes no difference. -/
theorem ofBinding_congr_of_axis (hasAxis : binding.has "axis" = true) {other : Params}
    (same : ∀ key, key ≠ "button" → other.get? key = binding.get? key) :
    ofBinding mode other = ofBinding mode binding := by
  have sameAxis := same "axis" (by decide)
  have otherHasAxis : other.has "axis" = true := by rw [Params.has, sameAxis, ← Params.has, hasAxis]
  have sameThreshold := lookup_congr (same "threshold" (by decide)) readSingle
    Binding.defaultThreshold
  have sameDirection : directionOf other = directionOf binding := by
    rw [directionOf, directionOf, getD, getD, same "direction" (by decide)]
  simp only [ofBinding, hasAxis, otherHasAxis, if_true, ofAxisBinding, single,
    Device.portOf_congr binding (same "port" (by decide)), Device.axisOf_congr binding sameAxis,
    sameThreshold, sameDirection]

/-- Every set of parameters makes a button device, and the device reads one port.  Without an
axis it is pressed when the port shows all known buttons of the stored mask and there is
one; with an axis it follows this axis alone, and with the fixed threshold it is pressed from
thirteen steps on in the stored direction.  Next to an axis it is the same device whatever is
stored under `button`. -/
theorem button_device_of_any_binding :
    (∃ (port : Port) (axis : Axis) (number : Int),
      StoredOr (fun port : Port => binding.Stores .int64 "port" port.val) 0 port ∧
      StoredOr (fun axis : Axis => binding.Stores .int32 "axis" axis.index.val) .stickX axis ∧
      StoredOr (binding.Stores .nat16 "button") 0 number ∧
      ∀ adapter : Adapter,
        let status := (ofBinding mode binding).value.status
        let shown := adapter.state port
        let mask := UInt16.ofNat number.toNat &&& 0x1f7f
        (binding.has "axis" = false →
          (status adapter = true ↔ mask ≠ 0 ∧ shown.buttons.mask &&& mask = mask)) ∧
        (binding.has "axis" = true →
          (mode = .fixed →
            (status adapter = true ↔
              if binding.get? "direction" = some "-" then (shown.axis axis).toNat ≤ 115
              else 141 ≤ (shown.axis axis).toNat)) ∧
          ∀ other : Adapter, (other.state port).axis axis = shown.axis axis →
            status other = status adapter)) ∧
    (binding.has "axis" = true → ∀ other : Params,
      (∀ key, key ≠ "button" → other.get? key = binding.get? key) →
      ofBinding mode other = ofBinding mode binding) := by
  refine ⟨?_, fun hasAxis _ same => ofBinding_congr_of_axis mode binding hasAxis same⟩
  refine ⟨(Device.portOf binding).value, (Device.axisOf binding "axis" .stickX).value,
    (binding.integer .nat16 "button" 0).value, Device.storedOr_portOf binding,
    Device.storedOr_axisOf binding "axis" .stickX,
    storedOr_integer (by decide) binding "button" 0, ?_⟩
  intro adapter status shown mask
  refine ⟨?_, ?_⟩
  · intro noAxis
    have made := value_ofBinding_of_mask mode binding noAxis
    simp only [status, made]
    exact status_mask_iff _ _ adapter
  · intro hasAxis
    obtain ⟨threshold, follows⟩ := exists_status_ofBinding_of_axis mode binding hasAxis
    refine ⟨?_, ?_⟩
    · rintro rfl
      simp only [status, follows]
      rw [AxisButton.isDeflected_fixed_iff_byte]
      by_cases lower : binding.get? "direction" = some "-" <;> simp [lower, shown]
    · intro other same
      simp only [status, follows]
      rw [same]

/-- Nothing in this binding can be used but the name of the axis, and it makes the upper half of
the first axis at the first port. -/
example :
    let damaged := Params.ofList [("axis", "6"), ("button", "-0"), ("direction", "down"),
      ("port", " 1"), ("threshold", "NaN")]
    (ofBinding .fixed damaged).value =
      .axis ⟨0, .stickX, Binding.defaultThreshold, true, .fixed⟩ := by
  decide +kernel

end ButtonDevice

end PadCapture
