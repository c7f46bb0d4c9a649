import PadCapture.Pad.Axis

/-!
# What is being captured
-/

namespace PadCapture

/-- The two kinds of binding that a session can capture. -/
inductive BindingKind where
  | button
  | analog
deriving DecidableEq, Repr

def BindingKind.name : BindingKind → String
  | .button => "Button"
  | .analog => "Analog"

/-- The first axis of a stick, waiting for its partner on the same port. -/
structure HalfBinding where
  axis : Axis
  port : Nat
deriving DecidableEq, Repr

end PadCapture
