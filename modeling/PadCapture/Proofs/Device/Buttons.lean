import PadCapture.Device.Button
import PadCapture.Proofs.Capture.Entries
import PadCapture.Proofs.Pad.Buttons
import PadCapture.Proofs.Pad.Deflection
import PadCapture.Proofs.Params.Lookup

/-!
# Devices of captured buttons

The device of a captured button binding is the captured button, or the captured
direction of the captured axis.  An axis button is pressed from a fixed number of steps
away from the centre, which depends on the threshold mode only.
-/

namespace PadCapture

open Numeral

namespace Device

theorem value_portOf {binding : Params} {port : Port}
    (stored : binding.get? "port" = some (natText port)) : (portOf binding).value = port := by
  have fits : ((port.val : Nat) : Int) ≤ IntegerKind.int64.greatest := by
    have bound := port.isLt
    simp only [IntegerKind.int64]
    omega
  have known : portOfNumber? (port.val : Int) = some port := by
    simp [portOfNumber?]
  rw [portOf, Logged.value_bind, Params.value_integer_of_natText stored fits, known]
  rfl

theorem ofIndex?_index (axis : Axis) : Axis.ofIndex? (axis.index.val : Int) = some axis := by
  cases axis <;> decide

theorem value_axisOf {binding : Params} {key : String} {axis : Axis}
    (stored : binding.get? key = some (natText axis.index)) (default : Axis) :
    (axisOf binding key default).value = axis := by
  have fits : ((axis.index.val : Nat) : Int) ≤ IntegerKind.int32.greatest := by
    have bound := axis.index.isLt
    simp only [IntegerKind.int32]
    omega
  rw [axisOf, Logged.value_bind, Params.value_integer_of_natText stored fits, ofIndex?_index]
  rfl

end Device

namespace AxisButton

theorem value_create (port : Port) (axis : Axis) {threshold : Single}
    (finite : threshold.isFinite = true) (positive : Bool) (mode : ThresholdMode) :
    (create port axis threshold positive mode).value = ⟨port, axis, threshold, positive, mode⟩ := by
  rw [create, if_pos finite]
  rfl

/-- An axis button whose threshold lies just below a number of steps is pressed from that
number of steps on, in its own direction. -/
theorem isDeflected_iff (button : AxisButton) {limit : Rat} {steps : Int}
    (threshold : button.effectiveThreshold.value? = some limit)
    (exceeds : ∀ moved : Int, limit < (moved : Rat) / 128 ↔ steps ≤ moved) (value : UInt8) :
    button.isDeflected value = true ↔
      if button.positive then steps ≤ centreOffset value else centreOffset value ≤ -steps := by
  have deflection := value?_normalizedAxis value
  unfold isDeflected
  cases button.positive with
  | true =>
      simp only [if_true]
      rw [Floating.less_iff_of_value? threshold deflection]
      exact exceeds _
  | false =>
      simp only [Bool.false_eq_true, if_false]
      rw [Floating.less_iff_of_value? deflection (Floating.value?_neg threshold)]
      have mirrored := exceeds (-centreOffset value)
      constructor
      · intro below
        have enough := mirrored.mp (by push_cast; linarith)
        omega
      · intro low
        have above := mirrored.mpr (by omega)
        push_cast at above
        linarith

/-- How many steps from the centre press a captured axis button. -/
def pressSteps : ThresholdMode → Int
  | .fixed => 13
  | .stored => 65

/-- With the fixed threshold the stored one does not matter. -/
theorem isDeflected_fixed_iff (port : Nat) (axis : Axis) (threshold : Single) (positive : Bool)
    (value : UInt8) :
    (isDeflected ⟨port, axis, threshold, positive, .fixed⟩ value = true) ↔
      if positive then pressSteps .fixed ≤ centreOffset value
      else centreOffset value ≤ -pressSteps .fixed := by
  have tenth : (effectiveThreshold ⟨port, axis, threshold, positive, .fixed⟩).value? =
      some (13421773 / 134217728) := value?_tenth
  exact isDeflected_iff _ tenth tenth_lt_steps_iff value

theorem isDeflected_captured_iff (port : Nat) (axis : Axis) (positive : Bool)
    (mode : ThresholdMode) (value : UInt8) :
    (isDeflected ⟨port, axis, Binding.defaultThreshold, positive, mode⟩ value = true) ↔
      if positive then pressSteps mode ≤ centreOffset value
      else centreOffset value ≤ -pressSteps mode := by
  cases mode with
  | fixed => exact isDeflected_fixed_iff port axis Binding.defaultThreshold positive value
  | stored =>
      have threshold : (effectiveThreshold
          ⟨port, axis, Binding.defaultThreshold, positive, .stored⟩).value? = some (1 / 2) := by
        have half := Floating.value?_abs value?_half
        rwa [abs_of_pos (by norm_num)] at half
      exact isDeflected_iff _ threshold half_lt_steps_iff value

end AxisButton

namespace ButtonDevice

variable (mode : ThresholdMode) (port : Port)

/-- The binding of a known button is read as a mask of just that button. -/
theorem value_ofBinding_ofButton {button : Buttons} (known : button.known = button) :
    (ofBinding mode (Binding.ofButton port button)).value = .mask port button := by
  have portAt : (Binding.ofButton port button).get? "port" = some (natText port) := by
    simp +decide [Params.get?, Binding.entries_ofButton, List.lookup_cons]
  have buttonAt : (Binding.ofButton port button).get? "button" =
      some (natText button.mask.toNat) := by
    simp +decide [Params.get?, Binding.entries_ofButton]
  have noAxis : (Binding.ofButton port button).has "axis" = false := by
    simp +decide [Params.has, Params.get?, Binding.entries_ofButton]
  have fits : ((button.mask.toNat : Nat) : Int) ≤ IntegerKind.nat16.greatest := by
    have bound := button.mask.toNat_lt
    simp only [IntegerKind.nat16]
    omega
  have mask := Params.value_integer_of_natText buttonAt fits 0
  rw [ofBinding, Logged.value_bind, Device.value_portOf portAt, noAxis]
  simp [ofMaskBinding, mask, known]

theorem parse_defaultThreshold :
    (Floating.parse "0.5" : Except FloatFault Single) = .ok Binding.defaultThreshold := by
  decide +kernel

theorem isFinite_defaultThreshold : Binding.defaultThreshold.isFinite = true := by
  decide +kernel

theorem value_directionOf {binding : Params} {positive : Bool}
    (stored : binding.get? "direction" = some (if positive then "+" else "-")) :
    (directionOf binding).value = positive := by
  unfold directionOf Params.getD
  cases positive <;> simp [stored]

/-- The binding of an axis is read as the captured direction of that axis. -/
theorem value_ofBinding_ofAxis (axis : Axis) (value : UInt8) :
    (ofBinding mode (Binding.ofAxis port axis value)).value =
      .axis ⟨port, axis, Binding.defaultThreshold, axisCentre < value, mode⟩ := by
  have portAt : (Binding.ofAxis port axis value).get? "port" = some (natText port) := by
    simp +decide [Params.get?, Binding.entries_ofAxis, List.lookup_cons]
  have axisAt : (Binding.ofAxis port axis value).get? "axis" = some (natText axis.index) := by
    simp +decide [Params.get?, Binding.entries_ofAxis]
  have hasAxis : (Binding.ofAxis port axis value).has "axis" = true := by
    rw [Params.has, axisAt]
    rfl
  have directionAt : (Binding.ofAxis port axis value).get? "direction" =
      some (if decide (axisCentre < value) then "+" else "-") := by
    simpa using Binding.get?_direction_ofAxis port axis value
  have thresholdAt : (Binding.ofAxis port axis value).get? "threshold" = some "0.5" := by
    simp +decide [Params.get?, Binding.entries_ofAxis, List.lookup_cons]
  rw [ofBinding, Logged.value_bind, Device.value_portOf portAt, hasAxis]
  simp only [if_true, ofAxisBinding, Logged.value_bind, Logged.value_pure,
    Device.value_axisOf axisAt, Params.value_single_of_parse thresholdAt parse_defaultThreshold,
    value_directionOf directionAt, AxisButton.value_create port axis isFinite_defaultThreshold]

end ButtonDevice

end PadCapture
