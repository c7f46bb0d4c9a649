import PadCapture.Adapter.Basic
import PadCapture.Params.Typed

/-!
# Captured bindings

The parameter sets that capture produces for a button, for a direction of an
axis read as a button, and for a stick of two axes.
-/

namespace PadCapture.Binding

def engine : String := "gcpad"

/-- The value of `button` in a binding that reads an axis as a button. -/
def axisMarker : Int := 0x2000

def defaultThreshold : Single := .nearest (1 / 2)

def base (port : Port) : Params :=
  (Params.empty.set "engine" engine).setInteger "port" port.val

def ofButton (port : Port) (button : Buttons) : Params :=
  (base port).setInteger "button" button.mask.toNat

/-- The binding of an axis as a button, in the direction of `value`. -/
def ofAxis (port : Port) (axis : Axis) (value : UInt8) : Params :=
  ((((base port).setInteger "axis" axis.index.val).setInteger "button" axisMarker).set
    "direction" (if axisCentre < value then "+" else "-")).setSingle "threshold" defaultThreshold

def ofStick (port : Port) (axisX axisY : Axis) : Params :=
  ((base port).setInteger "axis_x" axisX.index.val).setInteger "axis_y" axisY.index.val

/-- The button binding of a sample: its first button in order of priority, or
otherwise its axis. -/
def ofSample? (port : Port) (sample : Sample) : Option Params :=
  match sample.buttons.first? with
  | some button => some (ofButton port button)
  | none => sample.axis.map fun axis => ofAxis port axis sample.value

end PadCapture.Binding
