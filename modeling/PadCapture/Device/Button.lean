import PadCapture.Capture.Binding
import PadCapture.Device.Lookup

/-!
# Button devices

A button device reads the live state of its port.  It is a mask of buttons, all
of which must be pressed, or one direction of an axis.
-/

namespace PadCapture

/-- How far an axis has to be moved to count as a pressed button. -/
inductive ThresholdMode where
  /-- The same small deflection for every binding. -/
  | fixed
  /-- The magnitude of the threshold stored in the binding. -/
  | stored
deriving DecidableEq, Repr

structure AxisButton where
  port : Nat
  axis : Axis
  threshold : Single
  positive : Bool
  mode : ThresholdMode
deriving DecidableEq, Repr

namespace AxisButton

def fixedThreshold : Single := .nearest (1 / 10)

/-- An axis button, whose threshold must be finite; any other is replaced. -/
def create (port : Nat) (axis : Axis) (threshold : Single) (positive : Bool)
    (mode : ThresholdMode) : Logged AxisButton := do
  if threshold.isFinite then return ⟨port, axis, threshold, positive, mode⟩
  else do
    Logged.note (.thresholdReplaced threshold Binding.defaultThreshold)
    return ⟨port, axis, Binding.defaultThreshold, positive, mode⟩

def effectiveThreshold (button : AxisButton) : Single :=
  match button.mode with
  | .fixed => fixedThreshold
  | .stored => button.threshold.abs

def isDeflected (button : AxisButton) (value : UInt8) : Bool :=
  if button.positive then button.effectiveThreshold.less (normalizedAxis value)
  else (normalizedAxis value).less button.effectiveThreshold.neg

def status (button : AxisButton) (adapter : Adapter) : Bool :=
  match adapter.state? button.port with
  | some state => button.isDeflected (state.axis button.axis)
  | none => false

end AxisButton

inductive ButtonDevice where
  | mask (port : Nat) (buttons : Buttons)
  | axis (button : AxisButton)
deriving DecidableEq, Repr

namespace ButtonDevice

def status (device : ButtonDevice) (adapter : Adapter) : Bool :=
  match device with
  | .mask port buttons =>
      match adapter.state? port with
      | some state => state.isPressed buttons
      | none => false
  | .axis button => button.status adapter

/-- Whether a stored direction means the upper half of the axis.  Only `-` means
the lower half. -/
def directionOf (binding : Params) : Logged Bool :=
  let direction := binding.getD "direction" ""
  if direction = "+" then return true
  else if direction = "-" then return false
  else do
    Logged.note (.directionUnknown direction)
    return true

def ofAxisBinding (mode : ThresholdMode) (binding : Params) (port : Port) :
    Logged ButtonDevice := do
  let axis ← Device.axisOf binding "axis" .stickX
  let threshold ← binding.single "threshold" Binding.defaultThreshold
  let positive ← directionOf binding
  Logged.note (.axisButtonCreated port.val axis positive)
  let button ← AxisButton.create port.val axis threshold positive mode
  return .axis button

def ofMaskBinding (binding : Params) (port : Port) : Logged ButtonDevice := do
  let mask ← binding.integer .nat16 "button" 0
  let buttons := (Buttons.mk (.ofNat mask.toNat)).known
  Logged.noteIf buttons.isEmpty (.bindingNamesNoButton binding)
  Logged.note (.buttonCreated port.val buttons)
  return .mask port.val buttons

/-- The device that a binding describes.  Every set of parameters describes one. -/
def ofBinding (mode : ThresholdMode) (binding : Params) : Logged ButtonDevice := do
  let port ← Device.portOf binding
  if binding.has "axis" then ofAxisBinding mode binding port
  else ofMaskBinding binding port

end ButtonDevice

end PadCapture
