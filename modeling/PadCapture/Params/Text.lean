import PadCapture.Params.Basic
import PadCapture.Text.Quoted

/-!
# The text form of parameter sets

A set is written `key:value,key:value` in increasing order of keys.  Inside
keys and values the two separators and the escape character itself are written
as `$0`, `$1` and `$2`.  Reading splits the text at the separators first and
decodes the parts afterwards; pairs may come in any order.
-/

namespace PadCapture

namespace Params

def escapeChar (c : Char) : List Char :=
  if c = ':' then ['$', '0']
  else if c = ',' then ['$', '1']
  else if c = '$' then ['$', '2']
  else [c]

def escape (text : List Char) : List Char := text.flatMap escapeChar

def codeChar? (code : Char) : Option Char :=
  if code = '0' then some ':'
  else if code = '1' then some ','
  else if code = '2' then some '$'
  else none

/-- The text with the given written form.  A `$` takes the character after it
with it, which must be a code. -/
def unescape : List Char → Option (List Char)
  | [] => some []
  | [c] => if c = '$' then none else some [c]
  | c :: next :: rest =>
      if c = '$' then
        match codeChar? next, unescape rest with
        | some decoded, some others => some (decoded :: others)
        | _, _ => none
      else (unescape (next :: rest)).map (c :: ·)

/-- The parts of a text between the separators, of which there is one more than
there are separators. -/
def pieces (separator : Char) : List Char → List (List Char)
  | [] => [[]]
  | c :: rest =>
      if c = separator then [] :: pieces separator rest
      else
        match pieces separator rest with
        | [] => [[c]]
        | first :: others => (c :: first) :: others

inductive Fault where
  /-- The piece does not have exactly one colon. -/
  | malformedPair (piece : String)
  /-- The key or value has a `$` without a code. -/
  | invalidEscape (part : String)
deriving DecidableEq, Repr

namespace Fault

def message : Fault → String
  | .malformedPair piece => "Malformed key/value pair: " ++ Text.quoted piece
  | .invalidEscape part => "Invalid escape sequence in " ++ Text.quoted part

end Fault

def readPart (part : List Char) : Except Fault String :=
  match unescape part with
  | some text => .ok (String.ofList text)
  | none => .error (.invalidEscape (String.ofList part))

def readPair (piece : List Char) : Except Fault (String × String) :=
  match pieces ':' piece with
  | [key, value] =>
      match readPart key with
      | .error fault => .error fault
      | .ok key =>
          match readPart value with
          | .error fault => .error fault
          | .ok value => .ok (key, value)
  | _ => .error (.malformedPair (String.ofList piece))

def readPairs : List (List Char) → Except Fault (List (String × String))
  | [] => .ok []
  | piece :: rest =>
      match readPair piece with
      | .error fault => .error fault
      | .ok pair => (readPairs rest).map (pair :: ·)

/-- The set that `text` writes.  The empty text writes the empty set. -/
def parse (text : String) : Except Fault Params :=
  if text.isEmpty then .ok empty
  else (readPairs (pieces ',' text.toList)).map ofList

def entryText (entry : String × String) : List Char :=
  escape entry.1.toList ++ ':' :: escape entry.2.toList

def entriesText : List (String × String) → List Char
  | [] => []
  | [entry] => entryText entry
  | entry :: next :: rest => entryText entry ++ ',' :: entriesText (next :: rest)

def text (params : Params) : String := String.ofList (entriesText params.entries)

end Params

end PadCapture
