import PadCapture.Numeral.Digit

/-!
# Integer numerals

A numeral is an optional sign and at least one decimal digit.  Reading is from
left to right, and the first thing that goes wrong is the fault: a character
that is no digit, or a digit that carries the value out of range.
-/

namespace PadCapture.Numeral

/-- The integers from `least` to `greatest`.  A kind whose least member is zero
has no negative numerals, not even of zero. -/
structure IntegerKind where
  least : Int
  greatest : Int
deriving DecidableEq, Repr

namespace IntegerKind

def int64 : IntegerKind := ⟨-9223372036854775808, 9223372036854775807⟩
def int32 : IntegerKind := ⟨-2147483648, 2147483647⟩
def nat64 : IntegerKind := ⟨0, 18446744073709551615⟩
def nat16 : IntegerKind := ⟨0, 65535⟩
def nat8 : IntegerKind := ⟨0, 255⟩

def isSigned (kind : IntegerKind) : Bool := kind.least < 0

def holds (kind : IntegerKind) (value : Int) : Bool :=
  kind.least ≤ value && value ≤ kind.greatest

end IntegerKind

inductive IntegerFault where
  | empty
  | invalidDigit
  | tooLarge
  | tooSmall
deriving DecidableEq, Repr

namespace IntegerFault

def message : IntegerFault → String
  | .empty => "cannot parse integer from empty string"
  | .invalidDigit => "invalid digit found in string"
  | .tooLarge => "number too large to fit in target type"
  | .tooSmall => "number too small to fit in target type"

end IntegerFault

/-- Read digits onto the magnitude `value`, which must stay within `bound`;
`overflow` is the fault of leaving it. -/
def readDigits (bound : Nat) (overflow : IntegerFault) :
    Nat → List Char → Except IntegerFault Nat
  | value, [] => .ok value
  | value, c :: rest =>
      if isDecimal c then
        let value := value * 10 + digitValue c
        if value ≤ bound then readDigits bound overflow value rest else .error overflow
      else .error .invalidDigit

def readMagnitude (bound : Nat) (overflow : IntegerFault) (digits : List Char) :
    Except IntegerFault Nat :=
  if digits.isEmpty then .error .invalidDigit else readDigits bound overflow 0 digits

def readInteger (kind : IntegerKind) : List Char → Except IntegerFault Int
  | [] => .error .empty
  | '+' :: digits => do
      let value ← readMagnitude kind.greatest.toNat .tooLarge digits
      return (value : Int)
  | '-' :: digits =>
      if kind.isSigned then do
        let value ← readMagnitude kind.least.natAbs .tooSmall digits
        return -(value : Int)
      else .error .invalidDigit
  | digits => do
      let value ← readMagnitude kind.greatest.toNat .tooLarge digits
      return (value : Int)

def parseInteger (kind : IntegerKind) (text : String) : Except IntegerFault Int :=
  readInteger kind text.toList

def natText (n : Nat) : String := String.ofList (Nat.toDigits 10 n)

/-- The decimal numeral of `value`, with a sign only when it is negative. -/
def integerText (value : Int) : String :=
  if value < 0 then "-" ++ natText value.natAbs else natText value.natAbs

end PadCapture.Numeral
