import PadCapture.Toml.Character

/-!
# Dates and times

A date, a date with a time, or a time alone.  Every part has a fixed number of
digits and a range.
-/

namespace PadCapture.Toml

open Numeral

/-- A number of exactly `count` digits within the given bounds. -/
def fixedDigits (count least greatest : Nat) : Reader Nat := fun cs =>
  let digits := cs.take count
  let number := numberOf 10 digits
  if digits.length = count && digits.all isDecimal && least ≤ number && number ≤ greatest then
    some (number, cs.drop count)
  else none

def daysOfMonth (year month : Nat) : Nat :=
  if month = 2 then
    if year % 4 = 0 && (year % 100 != 0 || year % 400 = 0) then 29 else 28
  else if month = 4 || month = 6 || month = 9 || month = 11 then 30
  else 31

def date? (cs : List Char) : Option (List Char) := do
  let (year, cs) ← fixedDigits 4 0 9999 cs
  let cs ← after? ['-'] cs
  let (month, cs) ← fixedDigits 2 1 12 cs
  let cs ← after? ['-'] cs
  let (_, cs) ← fixedDigits 2 1 (daysOfMonth year month) cs
  return cs

/-- The rest after a fraction of a second, which may be missing. -/
def secondFraction? : List Char → Option (List Char)
  | '.' :: rest =>
      if (rest.takeWhile isDecimal).isEmpty then some ('.' :: rest)
      else some (rest.dropWhile isDecimal)
  | cs => some cs

def time? (cs : List Char) : Option (List Char) := do
  let (_, cs) ← fixedDigits 2 0 23 cs
  let cs ← after? [':'] cs
  let (_, cs) ← fixedDigits 2 0 59 cs
  let cs ← after? [':'] cs
  let (_, cs) ← fixedDigits 2 0 60 cs
  secondFraction? cs

/-- The rest after an offset from universal time, which may be missing. -/
def offset? : List Char → Option (List Char)
  | 'Z' :: rest => some rest
  | 'z' :: rest => some rest
  | sign :: rest =>
      if sign = '+' || sign = '-' then do
        let (_, cs) ← fixedDigits 2 0 23 rest
        let cs ← after? [':'] cs
        let (_, cs) ← fixedDigits 2 0 59 cs
        return cs
      else some (sign :: rest)
  | [] => some []

/-- The rest after the time that may follow a date. -/
def timeAfterDate? : List Char → Option (List Char)
  | mark :: rest =>
      if mark = 'T' || mark = 't' || mark = ' ' then
        match time? rest with
        | some cs => offset? cs
        | none => some (mark :: rest)
      else some (mark :: rest)
  | [] => some []

def moment? (cs : List Char) : Option (List Char) :=
  match date? cs with
  | some rest => timeAfterDate? rest
  | none => time? cs

end PadCapture.Toml
