import PadCapture.Floating.Decimal
import PadCapture.Toml.Character
import PadCapture.Toml.Value

/-!
# Numbers

Integers are decimal with an optional sign, or unsigned in base sixteen, eight
or two, and must fit into 64 bits.  Floating-point numbers have a fraction, an
exponent or both.  A single underscore may stand between two digits.
-/

namespace PadCapture.Toml

open Numeral

/-- Digits after the first one, with underscores between them. -/
def moreDigits (isDigit : Char → Bool) : Reader (List Char)
  | [] => some ([], [])
  | [c] =>
      if isDigit c then some ([c], []) else if c = '_' then none else some ([], [c])
  | c :: next :: rest =>
      if isDigit c then
        (moreDigits isDigit (next :: rest)).map fun (digits, left) => (c :: digits, left)
      else if c = '_' then
        if isDigit next then moreDigits isDigit (next :: rest) else none
      else some ([], c :: next :: rest)

def someDigits (isDigit : Char → Bool) : Reader (List Char)
  | [] => none
  | c :: rest => if isDigit c then moreDigits isDigit (c :: rest) else none

/-- An optional sign: whether it is negative. -/
def sign : List Char → Bool × List Char
  | '-' :: rest => (true, rest)
  | '+' :: rest => (false, rest)
  | cs => (false, cs)

/-- The digits of a decimal integer: a zero stands alone. -/
def wholeDigits : Reader (List Char)
  | '0' :: rest => some (['0'], rest)
  | cs => someDigits isDecimal cs

/-- Whether an integer fits into 64 bits. -/
def fits (value : Int) : Bool := Numeral.IntegerKind.int64.holds value

/-- An integer of the given base after its mark. -/
def basedInteger (base : Nat) (isDigit : Char → Bool) : Reader Value := fun cs => do
  let (digits, rest) ← someDigits isDigit cs
  let value : Int := (numberOf base digits : Nat)
  if fits value then some (.integer value, rest) else none

def decimalInteger : Reader Value := fun cs => do
  let (negative, cs) := sign cs
  let (digits, rest) ← wholeDigits cs
  let magnitude : Int := (numberOf 10 digits : Nat)
  let value := if negative then -magnitude else magnitude
  if fits value then some (.integer value, rest) else none

def integer : Reader Value
  | '0' :: 'x' :: rest => basedInteger 16 isHexadecimal rest
  | '0' :: 'o' :: rest => basedInteger 8 isOctal rest
  | '0' :: 'b' :: rest => basedInteger 2 isBinary rest
  | cs => decimalInteger cs

/-- What stands where a number has its fraction or exponent. -/
inductive Tail (α : Type) where
  | absent
  | malformed
  | present (value : α) (rest : List Char)

def fraction : List Char → Tail (List Char)
  | '.' :: rest =>
      match someDigits isDecimal rest with
      | some (digits, rest) => .present digits rest
      | none => .malformed
  | _ => .absent

def exponent : List Char → Tail Int
  | letter :: rest =>
      if letter = 'e' || letter = 'E' then
        let (negative, rest) := sign rest
        match someDigits isDecimal rest with
        | some (digits, rest) =>
            let magnitude : Int := (numberOf 10 digits : Nat)
            .present (if negative then -magnitude else magnitude) rest
        | none => .malformed
      else .absent
  | [] => .absent

/-- A literal beyond the finite numbers is refused, unless it is negative. -/
def literal (negative : Bool) (digits : List Char) (exponent : Int) (rest : List Char) :
    Option (Value × List Char) :=
  match (Floating.ofDecimal negative (numberOf 10 digits) exponent : Double) with
  | .infinite false => none
  | number => some (.float number, rest)

/-- The words for the numbers that are not finite. -/
def word (negative : Bool) (cs : List Char) : Option (Value × List Char) :=
  match after? ['i', 'n', 'f'] cs with
  | some rest => some (.float (.infinite negative), rest)
  | none => (after? ['n', 'a', 'n'] cs).map fun rest => (.float .nan, rest)

/-- What a text starts with, seen as a floating-point number. -/
inductive FloatToken where
  /-- It is none, but may be an integer. -/
  | other
  | malformed
  | number (value : Value) (rest : List Char)

/-- The token of an optional result, where nothing is malformed. -/
def FloatToken.ofResult : Option (Value × List Char) → FloatToken
  | some (value, rest) => .number value rest
  | none => .malformed

def float (cs : List Char) : FloatToken :=
  let (negative, cs) := sign cs
  match wholeDigits cs with
  | none =>
      match word negative cs with
      | some (value, rest) => .number value rest
      | none => .other
  | some (whole, rest) =>
      match fraction rest with
      | .malformed => .malformed
      | .absent =>
          match exponent rest with
          | .absent => .other
          | .malformed => .malformed
          | .present exponent rest => .ofResult (literal negative whole exponent rest)
      | .present digits rest =>
          let places : Int := (digits.length : Nat)
          match exponent rest with
          | .absent => .ofResult (literal negative (whole ++ digits) (-places) rest)
          | .malformed => .malformed
          | .present exponent rest =>
              .ofResult (literal negative (whole ++ digits) (exponent - places) rest)

def number : Reader Value := fun cs =>
  match float cs with
  | .number value rest => some (value, rest)
  | .malformed => none
  | .other => integer cs

end PadCapture.Toml
