import PadCapture.Capture.Binding

/-!
# Entries of captured bindings

The parameter sets of the three kinds of binding, entry by entry in order of names.
-/

namespace PadCapture

theorem Numeral.integerText_natCast (n : Nat) : integerText (n : Int) = natText n := by
  simp [integerText]

namespace Binding

open Numeral

theorem text_defaultThreshold : defaultThreshold.text .plain = "0.5" := by
  decide +kernel

theorem integerText_axisMarker : integerText axisMarker = "8192" := by
  decide +kernel

theorem entries_base (port : Port) :
    (base port).entries = [("engine", "gcpad"), ("port", natText port)] := by
  simp only [base, engine, Params.setInteger, Params.set, Params.empty, integerText_natCast]
  simp +decide only [insertSorted, if_false]

theorem entries_ofButton (port : Port) (button : Buttons) :
    (ofButton port button).entries =
      [("button", natText button.mask.toNat), ("engine", "gcpad"), ("port", natText port)] := by
  simp only [ofButton, Params.setInteger, Params.set, entries_base, integerText_natCast]
  simp +decide only [insertSorted, if_true]

theorem entries_ofAxis (port : Port) (axis : Axis) (value : UInt8) :
    (ofAxis port axis value).entries =
      [("axis", natText axis.index), ("button", "8192"),
        ("direction", if axisCentre < value then "+" else "-"), ("engine", "gcpad"),
        ("port", natText port), ("threshold", "0.5")] := by
  simp only [ofAxis, Params.setInteger, Params.setSingle, Params.set, entries_base,
    integerText_natCast, integerText_axisMarker, text_defaultThreshold]
  simp +decide only [insertSorted, if_true, if_false]

theorem entries_ofStick (port : Port) (axisX axisY : Axis) :
    (ofStick port axisX axisY).entries =
      [("axis_x", natText axisX.index), ("axis_y", natText axisY.index), ("engine", "gcpad"),
        ("port", natText port)] := by
  simp only [ofStick, Params.setInteger, Params.set, entries_base, integerText_natCast]
  simp +decide only [insertSorted, if_true, if_false]

theorem get?_direction_ofButton (port : Port) (button : Buttons) :
    (ofButton port button).get? "direction" = none := by
  simp +decide [Params.get?, entries_ofButton, List.lookup_cons]

theorem get?_direction_ofAxis (port : Port) (axis : Axis) (value : UInt8) :
    (ofAxis port axis value).get? "direction" = some (if axisCentre < value then "+" else "-") := by
  simp +decide [Params.get?, entries_ofAxis, List.lookup_cons]

theorem get?_port_of_ofSample? {port : Port} {sample : Sample} {binding : Params}
    (made : ofSample? port sample = some binding) :
    binding.get? "port" = some (natText port) := by
  unfold ofSample? at made
  split at made
  · rename_i button _
    cases made
    simp +decide [Params.get?, entries_ofButton, List.lookup_cons]
  · obtain ⟨axis, _, bound⟩ := Option.map_eq_some_iff.mp made
    subst bound
    simp +decide [Params.get?, entries_ofAxis, List.lookup_cons]

end Binding

end PadCapture
