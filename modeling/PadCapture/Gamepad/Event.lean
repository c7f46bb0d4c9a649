import PadCapture.Floating.Basic
import PadCapture.Pad.State

/-!
# Events of host gamepads

The buttons and axes of a gamepad of the host, what they stand for on a pad, and
the events that a gamepad sends.
-/

namespace PadCapture.Gamepad

inductive HostButton where
  | south | east | north | west | c | z
  | leftTrigger | leftTrigger2 | rightTrigger | rightTrigger2
  | select | start | mode | leftThumb | rightThumb
  | dPadUp | dPadDown | dPadLeft | dPadRight
  | unknown
deriving DecidableEq, Repr

namespace HostButton

def named : List (String × HostButton) :=
  [("South", south), ("East", east), ("North", north), ("West", west), ("C", c), ("Z", z),
    ("LeftTrigger", leftTrigger), ("LeftTrigger2", leftTrigger2),
    ("RightTrigger", rightTrigger), ("RightTrigger2", rightTrigger2),
    ("Select", select), ("Start", start), ("Mode", mode),
    ("LeftThumb", leftThumb), ("RightThumb", rightThumb),
    ("DPadUp", dPadUp), ("DPadDown", dPadDown), ("DPadLeft", dPadLeft),
    ("DPadRight", dPadRight), ("Unknown", unknown)]

def ofName? (name : String) : Option HostButton := named.lookup name

/-- The pad button in the same place: the face buttons sit where they sit on a
pad. -/
def padButton? : HostButton → Option Buttons
  | south => some .a
  | west => some .b
  | east => some .x
  | north => some .y
  | start => some .start
  | rightTrigger => some .z
  | leftTrigger2 => some .l
  | rightTrigger2 => some .r
  | dPadUp => some .up
  | dPadDown => some .down
  | dPadLeft => some .left
  | dPadRight => some .right
  | _ => none

def triggerAxis? : HostButton → Option Axis
  | leftTrigger2 => some .triggerLeft
  | rightTrigger2 => some .triggerRight
  | _ => none

end HostButton

inductive HostAxis where
  | leftStickX | leftStickY | leftZ
  | rightStickX | rightStickY | rightZ
  | dPadX | dPadY
  | unknown
deriving DecidableEq, Repr

namespace HostAxis

def name : HostAxis → String
  | leftStickX => "LeftStickX"
  | leftStickY => "LeftStickY"
  | leftZ => "LeftZ"
  | rightStickX => "RightStickX"
  | rightStickY => "RightStickY"
  | rightZ => "RightZ"
  | dPadX => "DPadX"
  | dPadY => "DPadY"
  | unknown => "Unknown"

def ofName? (text : String) : Option HostAxis :=
  [leftStickX, leftStickY, leftZ, rightStickX, rightStickY, rightZ, dPadX, dPadY, unknown].find?
    fun axis => axis.name == text

def padAxis? : HostAxis → Option Axis
  | leftStickX => some .stickX
  | leftStickY => some .stickY
  | rightStickX => some .substickX
  | rightStickY => some .substickY
  | leftZ => some .triggerLeft
  | rightZ => some .triggerRight
  | _ => none

end HostAxis

inductive Change where
  | buttonPressed (button : HostButton)
  | buttonRepeated (button : HostButton)
  | buttonReleased (button : HostButton)
  | buttonChanged (button : HostButton) (value : Single)
  | axisChanged (axis : HostAxis) (value : Single)
  | connected
  | disconnected
  | dropped
deriving DecidableEq, Repr

structure Report where
  gamepad : Nat
  change : Change
deriving DecidableEq, Repr

/-- The byte of a deflection in `[-1, 1]`.  Deflections outside count as full. -/
def axisByte (value : Single) : UInt8 :=
  (((value.clamp (.nearest (-1)) (.nearest 1)).mul (.nearest 127)).add (.nearest 128)).toByte

end PadCapture.Gamepad
