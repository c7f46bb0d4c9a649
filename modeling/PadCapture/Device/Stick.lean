import PadCapture.Device.Lookup

/-!
# Stick devices

A stick reads two axes of one port as a vector.  The vector is pulled back onto
the unit circle; up to the deadzone it is zero, and from there its length grows
linearly to one.
-/

namespace PadCapture

structure StickVector where
  x : Single
  y : Single
deriving DecidableEq, Repr

namespace StickVector

def length (vector : StickVector) : Single := Single.hypot vector.x vector.y

/-- Pull a vector that is longer than one back onto the unit circle. -/
def clampToUnit (vector : StickVector) : StickVector :=
  let length := vector.length
  if Floating.less (.nearest 1) length then ⟨vector.x.div length, vector.y.div length⟩
  else vector

/-- The factor that a deadzone applies to a vector of the given length. -/
def deadzoneScale (length deadzone : Single) : Single :=
  (length.sub deadzone).div (length.mul (Floating.sub (.nearest 1) deadzone))

def applyDeadzone (vector : StickVector) (deadzone : Single) : StickVector :=
  let length := vector.length
  if length.atMost deadzone then ⟨.zero false, .zero false⟩
  else
    let scale := deadzoneScale length deadzone
    ⟨vector.x.mul scale, vector.y.mul scale⟩

end StickVector

inductive Direction where
  | right
  | left
  | up
  | down
deriving DecidableEq, Repr

structure Stick where
  port : Nat
  axisX : Axis
  axisY : Axis
  deadzone : Single
deriving DecidableEq, Repr

namespace Stick

def largestDeadzone : Single := .nearest (99 / 100)

def directionThreshold : Single := .nearest (2 / 5)

/-- The raw deflection that counts as full: sticks rarely travel further. -/
def fullDeflection : Single := .nearest 95

/-- A stick whose deadzone is moved into the range from zero to the largest one.  A
deadzone that is not finite counts as zero. -/
def create (port : Nat) (axisX axisY : Axis) (deadzone : Single) : Logged Stick := do
  if deadzone.isFinite then
    return ⟨port, axisX, axisY, deadzone.clamp (.zero false) largestDeadzone⟩
  else do
    Logged.note (.deadzoneReplaced deadzone)
    return ⟨port, axisX, axisY, .clamp (.zero false) (.zero false) largestDeadzone⟩

/-- The deflection of a byte, one for full travel. -/
def normalize (value : UInt8) : Single :=
  ((Single.ofByte value).sub (.nearest 128)).div fullDeflection

def vectorOf (stick : Stick) (state : PortState) : StickVector :=
  let raw : StickVector := ⟨normalize (state.axis stick.axisX), normalize (state.axis stick.axisY)⟩
  raw.clampToUnit.applyDeadzone stick.deadzone

def status (stick : Stick) (adapter : Adapter) : StickVector :=
  stick.vectorOf ((adapter.state? stick.port).getD .idle)

def points (vector : StickVector) : Direction → Bool
  | .right => directionThreshold.less vector.x
  | .left => vector.x.less directionThreshold.neg
  | .up => directionThreshold.less vector.y
  | .down => vector.y.less directionThreshold.neg

def directionStatus (stick : Stick) (adapter : Adapter) (direction : Direction) : Bool :=
  points (stick.status adapter) direction

/-- The stick that a binding describes.  Every set of parameters describes one; a
deadzone that is missing, unreadable or not finite is the given default. -/
def ofBinding (defaultDeadzone : Single) (binding : Params) : Logged Stick := do
  let port ← Device.portOf binding
  let axisX ← Device.axisOf binding "axis_x" .stickX
  let axisY ← Device.axisOf binding "axis_y" .stickY
  let stored ← binding.single "deadzone" defaultDeadzone
  Logged.noteIf (!stored.isFinite) (.deadzoneNotFinite binding defaultDeadzone)
  let deadzone := if stored.isFinite then stored else defaultDeadzone
  Logged.note (.stickCreated port.val axisX axisY deadzone)
  create port.val axisX axisY deadzone

end Stick

end PadCapture
