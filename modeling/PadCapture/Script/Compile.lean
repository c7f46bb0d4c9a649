import PadCapture.Adapter.Port
import PadCapture.Params.Sorted
import PadCapture.Script.Basic
import PadCapture.Text.Blank

/-!
# Compiling scripts

A written step names its buttons and axes.  Compiling looks the names up; the
first fault of the first faulty step is reported, and within a step the port is
checked before the buttons and the buttons before the axes.
-/

namespace PadCapture.Script

/-- A step as it is written: button names, and bytes by axis name in order of
names. -/
structure WrittenStep where
  port : Nat
  delay : Nat
  buttons : List String
  axes : List (String × UInt8)
  sorted : KeysIncrease axes

inductive StepFault where
  | unknownButton (name : String)
  | unknownAxis (name : String)
  | portOutOfRange (port : Nat)
deriving DecidableEq, Repr

/-- The fault of the step with the given number, in words. -/
def StepFault.message (step : Nat) : StepFault → String
  | .unknownButton name => s!"Step {step}: unknown button " ++ Text.quoted name
  | .unknownAxis name => s!"Step {step}: unknown axis " ++ Text.quoted name
  | .portOutOfRange port => s!"Step {step}: port {port} out of range"

/-- The buttons of the given names in letters of any case, added to `pressed`. -/
def compileButtons (pressed : Buttons) : List String → Except StepFault Buttons
  | [] => .ok pressed
  | name :: rest =>
      match Buttons.ofName? (Text.uppercase name) with
      | some button => compileButtons (pressed.union button) rest
      | none => .error (.unknownButton name)

/-- The state with the given bytes for the axes of the given names. -/
def compileAxes (state : PortState) : List (String × UInt8) → Except StepFault PortState
  | [] => .ok state
  | (name, value) :: rest =>
      match Axis.ofScriptName? name with
      | some axis => compileAxes (state.setAxis axis value) rest
      | none => .error (.unknownAxis name)

def compileStep (written : WrittenStep) : Except StepFault Step :=
  if Port.count ≤ written.port then .error (.portOutOfRange written.port)
  else
    match compileButtons .empty written.buttons with
    | .error fault => .error fault
    | .ok buttons =>
        match compileAxes { PortState.idle with buttons } written.axes with
        | .error fault => .error fault
        | .ok state => .ok ⟨written.delay, written.port, state⟩

structure NumberedFault where
  step : Nat
  fault : StepFault
deriving DecidableEq, Repr

/-- The steps that written steps describe, where the first has the number
`first`. -/
def compileFrom (first : Nat) : List WrittenStep → Except NumberedFault (List Step)
  | [] => .ok []
  | written :: rest =>
      match compileStep written with
      | .error fault => .error ⟨first, fault⟩
      | .ok step => (compileFrom (first + 1) rest).map (step :: ·)

def compile (written : List WrittenStep) : Except NumberedFault (List Step) :=
  compileFrom 0 written

end PadCapture.Script
