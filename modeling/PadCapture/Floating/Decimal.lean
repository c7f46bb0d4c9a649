import PadCapture.Floating.Basic
import PadCapture.Numeral.Integer

/-!
# Decimal text of floating-point numbers

Reading rounds the decimal once, directly to the wanted format.  Writing gives
the fewest digits that read back as the same number and, of those, the ones
nearest to it.
-/

namespace PadCapture

namespace FloatFormat

def tenPower (exponent : Int) : Rat := (10 : Rat) ^ exponent

/-- Whether every magnitude from `10 ^ exponent` upwards is beyond the finite
ones, seen from `8 ^ exponent`. -/
def exceeds (format : FloatFormat) (exponent : Int) : Bool :=
  format.leastExponent + (format.binades + format.precision : Nat) ≤ 3 * exponent &&
    0 ≤ exponent

/-- Whether every magnitude below `10 ^ exponent` rounds to zero, seen from
`8 ^ exponent`. -/
def vanishes (format : FloatFormat) (exponent : Int) : Bool :=
  3 * exponent < format.leastExponent - 1 && exponent ≤ 0

/-- The largest exponent of a power of ten that is at most `q`, for positive
`q`. -/
def decimalExponent (q : Rat) : Int :=
  let estimate := binaryExponent q * 30103 / 100000
  if tenPower (estimate + 1) ≤ q then estimate + 1
  else if q < tenPower estimate then estimate - 1
  else estimate

/-- The better of the two neighbours of `q` among the multiples of
`10 ^ exponent` that read back as `rank`: the nearer one, and the upper one if
both are equally near. -/
def decimalNeighbour? (format : FloatFormat) (rank : Nat) (q : Rat) (exponent : Int) :
    Option Nat :=
  let scaled := q * tenPower (-exponent)
  let lower := scaled.floor.toNat
  let readsBack (digits : Nat) : Bool :=
    format.nearestRank ((digits : Rat) * tenPower exponent) == rank
  let preferLower : Bool := scaled - (lower : Rat) < 1 / 2
  if preferLower && readsBack lower then some lower
  else if readsBack (lower + 1) then some (lower + 1)
  else if readsBack lower then some lower
  else none

/-- Try `count`, `count + 1`, … digits, at most `attempts` times. -/
def shortestFrom (format : FloatFormat) (rank : Nat) (q : Rat) (leading : Int) :
    (attempts count : Nat) → Nat × Int
  | 0, count =>
      let exponent := leading + 1 - (count : Int)
      ((q * tenPower (-exponent)).floor.toNat, exponent)
  | attempts + 1, count =>
      let exponent := leading + 1 - (count : Int)
      match format.decimalNeighbour? rank q exponent with
      | some digits => (digits, exponent)
      | none => format.shortestFrom rank q leading attempts (count + 1)

/-- The fewest decimal digits that read back as the positive `rank`, and the
exponent of ten of the last one. -/
def shortest (format : FloatFormat) (rank : Nat) : Nat × Int :=
  let q := format.magnitude rank
  format.shortestFrom rank q (decimalExponent q) (format.precision / 3 + 2) 1

end FloatFormat

/-- Remove the last digits while they are zero, at most `bound` of them. -/
def dropZeros : (bound : Nat) → Nat × Int → Nat × Int
  | 0, decimal => decimal
  | bound + 1, (digits, exponent) =>
      if digits % 10 = 0 && digits != 0 then dropZeros bound (digits / 10, exponent + 1)
      else (digits, exponent)

/-- `digits * 10 ^ exponent` written without an exponent. -/
def positional (digits : Nat) (exponent : Int) : String :=
  let text := Nat.toDigits 10 digits
  if 0 ≤ exponent then
    String.ofList (text ++ List.replicate exponent.toNat '0')
  else
    let places := exponent.natAbs
    let padded := List.replicate (places + 1 - text.length) '0' ++ text
    let whole := padded.length - places
    String.ofList (padded.take whole ++ '.' :: padded.drop whole)

/-- How a kind of output writes the numbers that need a decision. -/
structure FloatStyle where
  nanText : String
  /-- What follows a whole number. -/
  wholeEnding : String
deriving DecidableEq, Repr

namespace FloatStyle

/-- Messages and stored parameters: whole numbers have no point. -/
def plain : FloatStyle := ⟨"NaN", ""⟩

/-- Configuration files: whole numbers keep one decimal. -/
def document : FloatStyle := ⟨"nan", ".0"⟩

end FloatStyle

namespace Floating

variable {format : FloatFormat}

def rankText (style : FloatStyle) (format : FloatFormat) (rank : Nat) : String :=
  if rank = 0 then "0" ++ style.wholeEnding
  else
    let (digits, exponent) := dropZeros 20 (format.shortest rank)
    positional digits exponent ++ (if 0 ≤ exponent then style.wholeEnding else "")

/-- The shortest decimal text that reads back as the number. -/
def text (style : FloatStyle) : Floating format → String
  | .nan => style.nanText
  | .infinite negative => (if negative then "-" else "") ++ "inf"
  | .finite negative rank =>
      (if negative then "-" else "") ++ rankText style format rank.val

/-- The number nearest to `digits * 10 ^ exponent` with the given sign. -/
def ofDecimal (negative : Bool) (digits : Nat) (exponent : Int) : Floating format :=
  if digits = 0 then zero negative
  else
    let length : Int := ((Nat.toDigits 10 digits).length : Nat)
    if format.exceeds (exponent + length - 1) then .infinite negative
    else if format.vanishes (exponent + length) then zero negative
    else ofMagnitude negative ((digits : Rat) * FloatFormat.tenPower exponent)

end Floating

inductive FloatFault where
  | empty
  | invalid
deriving DecidableEq, Repr

def FloatFault.message : FloatFault → String
  | .empty => "cannot parse float from empty string"
  | .invalid => "invalid float literal"

namespace Floating

variable {format : FloatFormat}

open Numeral

/-- The exponent after the letter: an optional sign and at least one digit. -/
def readExponent : List Char → Option Int
  | '+' :: digits => readUnsigned digits
  | '-' :: digits => (readUnsigned digits).map (-·)
  | digits => readUnsigned digits
where
  readUnsigned (digits : List Char) : Option Int :=
    if digits.isEmpty || !digits.all isDecimal then none
    else some (numberOf 10 digits : Int)

/-- A decimal without its sign: digits with an optional point, at least one digit
in all, and an optional exponent. -/
def readDecimal (negative : Bool) (text : List Char) : Option (Floating format) :=
  let whole := text.takeWhile isDecimal
  let afterWhole := text.dropWhile isDecimal
  let (fraction, afterFraction) :=
    match afterWhole with
    | '.' :: rest => (rest.takeWhile isDecimal, rest.dropWhile isDecimal)
    | rest => ([], rest)
  if whole.isEmpty && fraction.isEmpty then none
  else
    let digits := numberOf 10 (whole ++ fraction)
    let places : Int := (fraction.length : Nat)
    match afterFraction with
    | [] => some (ofDecimal negative digits (-places))
    | letter :: rest =>
        if letter = 'e' || letter = 'E' then
          (readExponent rest).map fun exponent => ofDecimal negative digits (exponent - places)
        else none

/-- A number without its sign, which may be a word in letters of any case. -/
def readUnsigned (negative : Bool) (text : List Char) : Option (Floating format) :=
  let word := String.ofList (text.map Char.toLower)
  if word = "inf" || word = "infinity" then some (.infinite negative)
  else if word = "nan" then some .nan
  else readDecimal negative text

def parse (text : String) : Except FloatFault (Floating format) :=
  match text.toList with
  | [] => .error .empty
  | '+' :: rest => orInvalid (readUnsigned false rest)
  | '-' :: rest => orInvalid (readUnsigned true rest)
  | rest => orInvalid (readUnsigned false rest)
where
  /-- A text that is not empty has one fault only. -/
  orInvalid : Option (Floating format) → Except FloatFault (Floating format)
    | some number => .ok number
    | none => .error .invalid

end Floating

end PadCapture
