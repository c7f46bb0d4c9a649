import PadCapture.Numeral.Digit

/-!
# Characters of TOML documents
-/

namespace PadCapture.Toml

open Numeral

def isSpace (c : Char) : Bool := c = ' ' || c = '\t'

/-- Whether `c` may stand in a comment or a string: any character but the controls,
of which the tab is allowed. -/
def isContent (c : Char) : Bool :=
  c = '\t' || (0x20 ≤ c.toNat && c.toNat != 0x7f)

/-- Whether `c` may stand in a key without quotes. -/
def isBareKey (c : Char) : Bool :=
  isDecimal c || ('a' ≤ c && c ≤ 'z') || ('A' ≤ c && c ≤ 'Z') || c = '_' || c = '-'

/-- Reading from the front of a text: what was read and what is left. -/
abbrev Reader (α : Type) := List Char → Option (α × List Char)

def skipSpaces (cs : List Char) : List Char := cs.dropWhile isSpace

/-- The rest after a line ending, which is a line feed with or without a carriage
return before it. -/
def lineEnding? : List Char → Option (List Char)
  | '\n' :: rest => some rest
  | '\r' :: '\n' :: rest => some rest
  | _ => none

def after? : (expected : List Char) → List Char → Option (List Char)
  | [], cs => some cs
  | e :: expected, c :: cs => if e = c then after? expected cs else none
  | _ :: _, [] => none

end PadCapture.Toml
