import PadCapture.Toml.Character

/-!
# Strings

Four forms: between double quotes with escapes or between single quotes without,
each on one line or, with tripled quotes, on several.
-/

namespace PadCapture.Toml

open Numeral

/-- The character of exactly `count` hexadecimal digits. -/
def codePoint (count : Nat) : Reader Char := fun cs =>
  let digits := cs.take count
  let code := numberOf 16 digits
  if digits.length = count && digits.all isHexadecimal && code.isValidChar then
    some (Char.ofNat code, cs.drop count)
  else none

def escape : Reader Char
  | 'b' :: rest => some ('\x08', rest)
  | 'f' :: rest => some ('\x0c', rest)
  | 'n' :: rest => some ('\n', rest)
  | 'r' :: rest => some ('\r', rest)
  | 't' :: rest => some ('\t', rest)
  | '\\' :: rest => some ('\\', rest)
  | '"' :: rest => some ('"', rest)
  | 'u' :: rest => codePoint 4 rest
  | 'U' :: rest => codePoint 8 rest
  | _ => none

/-- The characters up to the closing double quote, of which at most `fuel` are
read. -/
def basicBody : (fuel : Nat) → Reader (List Char)
  | 0, _ => none
  | _, [] => none
  | fuel + 1, c :: rest =>
      if c = '"' then some ([], rest)
      else if c = '\\' then do
        let (decoded, rest) ← escape rest
        let (others, rest) ← basicBody fuel rest
        return (decoded :: others, rest)
      else if isContent c then do
        let (others, rest) ← basicBody fuel rest
        return (c :: others, rest)
      else none

def literalBody : Reader (List Char)
  | [] => none
  | c :: rest =>
      if c = '\'' then some ([], rest)
      else if isContent c then do
        let (others, rest) ← literalBody rest
        return (c :: others, rest)
      else none

/-- The rest after spaces, tabs and line endings, of which at most `fuel` are
skipped. -/
def skipLines : (fuel : Nat) → List Char → List Char
  | 0, cs => cs
  | fuel + 1, cs =>
      match lineEnding? cs with
      | some rest => skipLines fuel rest
      | none =>
          match cs with
          | c :: rest => if isSpace c then skipLines fuel rest else c :: rest
          | [] => []

/-- The rest after a line that ends with a backslash, and after the blank that
follows; the backslash itself has been read. -/
def joinedLine? (cs : List Char) : Option (List Char) :=
  match lineEnding? (skipSpaces cs) with
  | some rest => some (skipLines rest.length rest)
  | none => none

/-- The run of `quote` at the front of a text: its length and the rest. -/
def quoteRun (quote : Char) (cs : List Char) : Nat × List Char :=
  ((cs.takeWhile (· = quote)).length, cs.dropWhile (· = quote))

/-- The content and the end of a string on several lines.  A run of three to five
quotes ends it, of which the last three are no content; a shorter run is
content.  `readEscape` reads after a backslash: no character for a joined
line. -/
def multilineBody (quote : Char) (readEscape : Option (Reader (Option Char))) :
    (fuel : Nat) → Reader (List Char)
  | 0, _ => none
  | _, [] => none
  | fuel + 1, c :: rest =>
      if c = quote then
        let (count, left) := quoteRun quote (c :: rest)
        if 3 ≤ count then
          if count ≤ 5 then some (List.replicate (count - 3) quote, left) else none
        else do
          let (others, left) ← multilineBody quote readEscape fuel left
          return (List.replicate count quote ++ others, left)
      else
        match lineEnding? (c :: rest) with
        | some left => do
            let (others, left) ← multilineBody quote readEscape fuel left
            return ('\n' :: others, left)
        | none =>
            match (if c = '\\' then readEscape else none) with
            | some read => do
                let (decoded, left) ← read rest
                let (others, left) ← multilineBody quote readEscape fuel left
                return (decoded.toList ++ others, left)
            | none =>
                if isContent c then do
                  let (others, left) ← multilineBody quote readEscape fuel rest
                  return (c :: others, left)
                else none

/-- An escape in a string on several lines, which may join lines. -/
def multilineEscape : Reader (Option Char) := fun cs =>
  match joinedLine? cs with
  | some rest => some (none, rest)
  | none => (escape cs).map fun (decoded, rest) => (some decoded, rest)

/-- The rest after the line ending that may follow the opening quotes. -/
def firstLine (cs : List Char) : List Char := (lineEnding? cs).getD cs

def singleLine : Reader String
  | '"' :: rest =>
      (basicBody (rest.length + 1) rest).map fun (text, rest) => (String.ofList text, rest)
  | '\'' :: rest => (literalBody rest).map fun (text, rest) => (String.ofList text, rest)
  | _ => none

def quotation : Reader String := fun cs =>
  let named (text : Option (List Char × List Char)) : Option (String × List Char) :=
    text.map fun (text, rest) => (String.ofList text, rest)
  match after? ['"', '"', '"'] cs with
  | some rest => named (multilineBody '"' (some multilineEscape) (rest.length + 1) (firstLine rest))
  | none =>
      match after? ['\'', '\'', '\''] cs with
      | some rest => named (multilineBody '\'' none (rest.length + 1) (firstLine rest))
      | none => singleLine cs

end PadCapture.Toml
