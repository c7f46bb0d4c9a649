import PadCapture.Adapter.Basic
import PadCapture.Params.Typed

/-!
# Ports and axes named by bindings
-/

namespace PadCapture.Device

open Numeral

def portOfNumber? (number : Int) : Option Port :=
  if number < 0 then none else Port.ofNat? number.toNat

/-- The port that a binding names, or the first one if it names none of the adapter. -/
def portOf (binding : Params) : Logged Port := do
  let number ← binding.integer .int64 "port" 0
  match portOfNumber? number with
  | some port => return port
  | none => do
      Logged.note (.portOutOfRange number)
      return .first

/-- The axis that a binding names under `key`, or `default` if there is no such
axis. -/
def axisOf (binding : Params) (key : String) (default : Axis) : Logged Axis := do
  let number ← binding.integer .int32 key default.index.val
  match Axis.ofIndex? number with
  | some axis => return axis
  | none => do
      Logged.note (.axisUnknown number key default)
      return default

end PadCapture.Device
