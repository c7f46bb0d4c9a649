/-!
# Digits

The digits of the usual bases, in ASCII, and the number that a row of them
writes.
-/

namespace PadCapture.Numeral

def isDecimal (c : Char) : Bool := '0' ≤ c && c ≤ '9'

def isOctal (c : Char) : Bool := '0' ≤ c && c ≤ '7'

def isBinary (c : Char) : Bool := c = '0' || c = '1'

def isHexadecimal (c : Char) : Bool :=
  isDecimal c || ('a' ≤ c && c ≤ 'f') || ('A' ≤ c && c ≤ 'F')

def digitValue (c : Char) : Nat :=
  if isDecimal c then c.toNat - '0'.toNat
  else if 'a' ≤ c then c.toNat - 'a'.toNat + 10
  else c.toNat - 'A'.toNat + 10

def numberOf (base : Nat) (digits : List Char) : Nat :=
  digits.foldl (fun number c => number * base + digitValue c) 0

end PadCapture.Numeral
