/-!
# Axes of a pad

The six analog inputs of one pad in their fixed order, with the names used in
messages and the names used in scripts.
-/

namespace PadCapture

inductive Axis where
  | stickX
  | stickY
  | substickX
  | substickY
  | triggerLeft
  | triggerRight
deriving DecidableEq, Repr

namespace Axis

def all : List Axis := [stickX, stickY, substickX, substickY, triggerLeft, triggerRight]

def index : Axis → Fin 6
  | stickX => 0
  | stickY => 1
  | substickX => 2
  | substickY => 3
  | triggerLeft => 4
  | triggerRight => 5

def ofIndex? (number : Int) : Option Axis := all.find? fun axis => (axis.index.val : Int) == number

def name : Axis → String
  | stickX => "StickX"
  | stickY => "StickY"
  | substickX => "SubstickX"
  | substickY => "SubstickY"
  | triggerLeft => "TriggerLeft"
  | triggerRight => "TriggerRight"

def scriptName : Axis → String
  | stickX => "stick_x"
  | stickY => "stick_y"
  | substickX => "substick_x"
  | substickY => "substick_y"
  | triggerLeft => "trigger_left"
  | triggerRight => "trigger_right"

def ofScriptName? (text : String) : Option Axis := all.find? fun axis => axis.scriptName == text

end Axis

end PadCapture
