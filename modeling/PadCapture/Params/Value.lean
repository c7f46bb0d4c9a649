import PadCapture.Floating.Decimal

/-!
# Faults of typed parameter values
-/

namespace PadCapture.Params

inductive ValueFault where
  | integer (fault : Numeral.IntegerFault)
  | float (fault : FloatFault)
  | boolean
deriving DecidableEq, Repr

def ValueFault.message : ValueFault → String
  | .integer fault => fault.message
  | .float fault => fault.message
  | .boolean => "provided string was not `true` or `false`"

end PadCapture.Params
