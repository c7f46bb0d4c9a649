import PadCapture.Floating.Basic
import PadCapture.Pad.State

/-!
# Capture samples

While inputs are being captured, a port state is reported as a sample: its
buttons and at most one axis, which must be clearly away from its centre.
-/

namespace PadCapture

def captureDistance : Nat := 50

def centreDistance (value : UInt8) : Nat :=
  ((value.toNat : Int) - (axisCentre.toNat : Int)).natAbs

/-- The deflection of a byte in `[-1, 1]`, with the centre at zero. -/
def normalizedAxis (value : UInt8) : Single :=
  ((Single.ofByte value).sub (.nearest 128)).div (.nearest 128)

structure Sample where
  port : Nat
  buttons : Buttons
  axis : Option Axis
  value : UInt8
deriving DecidableEq, Repr

namespace Sample

/-- The last axis in order that is clearly away from its centre. -/
def movedAxis? (state : PortState) : Option Axis :=
  (Axis.all.filter fun axis => captureDistance < centreDistance (state.axis axis)).getLast?

/-- The report of a port state.  There is none when no bit of the mask is set and
every axis is near its centre. -/
def ofState? (port : Nat) (state : PortState) : Option Sample :=
  match movedAxis? state with
  | some axis => some ⟨port, state.buttons, some axis, state.axis axis⟩
  | none =>
      if state.buttons.isEmpty then none else some ⟨port, state.buttons, none, axisCentre⟩

def normalized (sample : Sample) : Single := normalizedAxis sample.value

def text (sample : Sample) : String :=
  let axis :=
    match sample.axis with
    | some axis => "Some(" ++ axis.name ++ ")"
    | none => "None"
  "PadSample \x7b port: " ++ Numeral.natText sample.port ++ ", buttons: " ++
    sample.buttons.text ++ ", axis: " ++ axis ++ ", axis_value: " ++
    Numeral.natText sample.value.toNat ++ " \x7d"

end Sample

end PadCapture
