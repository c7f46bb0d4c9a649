import PadCapture.Pad.Axis
import PadCapture.Pad.Buttons
import PadCapture.Numeral.Integer

/-!
# The live state of one port
-/

namespace PadCapture

def axisCentre : UInt8 := 128

/-- What one pad shows: its pressed buttons and one byte for each axis. -/
structure PortState where
  buttons : Buttons
  axes : Vector UInt8 6
deriving DecidableEq, Repr

namespace PortState

def idle : PortState := ⟨.empty, Vector.replicate 6 axisCentre⟩

def axis (state : PortState) (axis : Axis) : UInt8 := state.axes.get axis.index

def setAxis (state : PortState) (axis : Axis) (value : UInt8) : PortState :=
  { state with axes := state.axes.set axis.index.val value axis.index.isLt }

/-- Whether all of `button` is pressed.  No button at all is never pressed. -/
def isPressed (state : PortState) (button : Buttons) : Bool :=
  !button.isEmpty && state.buttons.contains button

def text (state : PortState) : String :=
  let bytes := ", ".intercalate (state.axes.toList.map fun byte => Numeral.natText byte.toNat)
  "PortState \x7b buttons: " ++ state.buttons.text ++ ", axes: [" ++ bytes ++ "] \x7d"

end PortState

end PadCapture
