import PadCapture.Text.Quoted
import PadCapture.Toml.Character

/-!
# Writing strings

A string is written in the plainest form that can hold it: without escapes where
possible, and on several lines only if it has line feeds or both kinds of
quotes.
-/

namespace PadCapture.Toml

/-- Whether `c` can stand in a string only as an escape. -/
def needsEscape (c : Char) : Bool :=
  c != '\n' && !isContent c

/-- The length of the longest run of `quote`, where `current` have been seen just
before. -/
def longestRun (quote : Char) : (current : Nat) → List Char → Nat
  | current, [] => current
  | current, c :: rest =>
      if c = quote then longestRun quote (current + 1) rest
      else max current (longestRun quote 0 rest)

/-- What a form of string has to cope with. -/
structure Traits where
  needsEscapes : Bool
  hasBackslash : Bool
  hasLineFeed : Bool
  doubleQuotes : Nat
  singleQuotes : Nat
deriving DecidableEq, Repr

def traits (text : List Char) : Traits where
  needsEscapes := text.any needsEscape
  hasBackslash := text.contains '\\'
  hasLineFeed := text.contains '\n'
  doubleQuotes := longestRun '"' 0 text
  singleQuotes := longestRun '\'' 0 text

inductive QuoteForm where
  | basic
  | literal
  | multilineBasic
  | multilineLiteral
deriving DecidableEq, Repr

def Traits.form (traits : Traits) : QuoteForm :=
  if !traits.needsEscapes && !traits.hasBackslash && traits.doubleQuotes = 0 &&
      !traits.hasLineFeed then .basic
  else if !traits.needsEscapes && traits.singleQuotes = 0 && !traits.hasLineFeed then .literal
  else if !traits.needsEscapes && !traits.hasBackslash && traits.doubleQuotes ≤ 2 then
    .multilineBasic
  else if !traits.needsEscapes && traits.singleQuotes ≤ 2 then .multilineLiteral
  else if traits.hasLineFeed then .multilineBasic
  else .basic

def fourDigits (code : Nat) : List Char :=
  let digits := (Nat.toDigits 16 code).map Char.toUpper
  List.replicate (4 - digits.length) '0' ++ digits

/-- One character other than a double quote between double quotes. -/
def escaped (multiline : Bool) (c : Char) : List Char :=
  if c = '\x08' then ['\\', 'b']
  else if c = '\t' then ['\\', 't']
  else if c = '\n' then if multiline then ['\n'] else ['\\', 'n']
  else if c = '\x0c' then ['\\', 'f']
  else if c = '\r' then ['\\', 'r']
  else if c = '\\' then ['\\', '\\']
  else if c.toNat < 0x20 || c.toNat = 0x7f then '\\' :: 'u' :: fourDigits c.toNat
  else [c]

/-- Text between double quotes.  Up to two quotes in a row stand for themselves on
several lines and none on a single line; `run` stand just before. -/
def escapedText (multiline : Bool) : (run : Nat) → List Char → List Char
  | _, [] => []
  | run, c :: rest =>
      if c = '"' then
        if run < (if multiline then 2 else 0) then '"' :: escapedText multiline (run + 1) rest
        else '\\' :: '"' :: escapedText multiline 0 rest
      else escaped multiline c ++ escapedText multiline 0 rest

def quote (text : String) : String :=
  let cs := text.toList
  let traits := traits cs
  let lead := if traits.hasLineFeed then "\n" else ""
  match traits.form with
  | .basic => "\"" ++ String.ofList (escapedText false 0 cs) ++ "\""
  | .literal => "'" ++ text ++ "'"
  | .multilineBasic =>
      "\"\"\"" ++ lead ++ String.ofList (escapedText true 0 cs) ++ "\"\"\""
  | .multilineLiteral => "'''" ++ lead ++ text ++ "'''"

end PadCapture.Toml
