import PadCapture.Toml.Assembly
import PadCapture.Toml.Moment
import PadCapture.Toml.Number
import PadCapture.Toml.Quotation

/-!
# Reading documents

A document is read into statements and assembled.  Arrays and inline tables may
be nested up to a fixed depth, and a key may have a fixed number of parts.
-/

namespace PadCapture.Toml

/-- The depth at which nesting is refused, and the number of parts at which a key
is. -/
def depthLimit : Nat := 80

/-! ### Keys -/

def keyPart : Reader String := fun cs =>
  match cs with
  | [] => none
  | c :: _ =>
      if c = '"' || c = '\'' then singleLine cs
      else if isBareKey c then
        some (String.ofList (cs.takeWhile isBareKey), cs.dropWhile isBareKey)
      else none

/-- The parts of a key, of which there are at most `fuel`, with blank around
each. -/
def keyParts : (fuel : Nat) → Reader (List String)
  | 0, _ => none
  | fuel + 1, cs => do
      let (part, rest) ← keyPart (skipSpaces cs)
      match skipSpaces rest with
      | '.' :: rest =>
          let (parts, rest) ← keyParts fuel rest
          return (part :: parts, rest)
      | rest => return ([part], rest)

/-- A key as the path to its last part and that part. -/
def key : Reader (List String × String) := fun cs => do
  let (parts, rest) ← keyParts (depthLimit - 1) cs
  let last ← parts.getLast?
  return ((parts.dropLast, last), rest)

/-! ### Blank -/

def skipComment (cs : List Char) : List Char :=
  match cs with
  | '#' :: rest => rest.dropWhile isContent
  | cs => cs

/-- The rest after the end of a line, which may hold a comment.  The last line of a
document needs no line ending. -/
def endOfLine? (cs : List Char) : Option (List Char) :=
  let rest := skipComment (skipSpaces cs)
  if rest.isEmpty then some [] else lineEnding? rest

/-- The rest after blank, comments and line endings within an array, where
`inComment` tells whether the text starts within a comment. -/
def skipBlankFrom : (inComment : Bool) → List Char → Option (List Char)
  | inComment, [] => if inComment then none else some []
  | _, '\n' :: rest => skipBlankFrom false rest
  | _, '\r' :: '\n' :: rest => skipBlankFrom false rest
  | true, c :: rest => if isContent c then skipBlankFrom true rest else none
  | false, c :: rest =>
      if c = '#' then skipBlankFrom true rest
      else if isSpace c then skipBlankFrom false rest
      else if c = '\r' then none
      else some (c :: rest)

def skipBlank (cs : List Char) : Option (List Char) := skipBlankFrom false cs

/-! ### Values -/

/-- The items of an array up to its closing bracket, of which at most `fuel` are
read. -/
def arrayItems (item : Reader Value) : (fuel : Nat) → Reader (List Value)
  | 0, _ => none
  | fuel + 1, cs => do
      match ← skipBlank cs with
      | ']' :: rest => return ([], rest)
      | rest =>
          let (first, rest) ← item rest
          match ← skipBlank rest with
          | ',' :: rest =>
              let (others, rest) ← arrayItems item fuel rest
              return (first :: others, rest)
          | ']' :: rest => return ([first], rest)
          | _ => none

/-- One definition of an inline table, with blank around its parts. -/
def inlinePair (item : Reader Value) : Reader Statement := fun cs => do
  let ((path, last), rest) ← key cs
  let rest ← after? ['='] rest
  let (value, rest) ← item (skipSpaces rest)
  return (.define path last value, skipSpaces rest)

/-- The definitions of an inline table up to its closing brace, of which there is
one at least and at most `fuel`. -/
def inlinePairs (item : Reader Value) : (fuel : Nat) → Reader (List Statement)
  | 0, _ => none
  | fuel + 1, cs => do
      let (first, rest) ← inlinePair item cs
      match rest with
      | ',' :: rest =>
          let (others, rest) ← inlinePairs item fuel rest
          return (first :: others, rest)
      | '\x7d' :: rest => return ([first], rest)
      | _ => none

def inlineTable (item : Reader Value) : Reader Value := fun cs =>
  match skipSpaces cs with
  | '\x7d' :: rest => some (.table [], rest)
  | _ => do
      let (pairs, rest) ← inlinePairs item (cs.length + 1) cs
      let table ← assemble pairs
      return (table, rest)

/-- A value in which arrays and inline tables are nested less than `depth` deep. -/
def value : (depth : Nat) → Reader Value
  | depth, cs =>
      match cs with
      | [] => none
      | c :: rest =>
          if c = '"' || c = '\'' then
            (quotation cs).map fun (text, rest) => (.text text, rest)
          else if c = '[' then
            match depth with
            | 0 => none
            | depth + 1 =>
                (arrayItems (value depth) (rest.length + 1) rest).map fun (items, rest) =>
                  (.array items, rest)
          else if c = '\x7b' then
            match depth with
            | 0 => none
            | depth + 1 => inlineTable (value depth) rest
          else if c = 't' then
            (after? ['t', 'r', 'u', 'e'] cs).map fun rest => (.boolean true, rest)
          else if c = 'f' then
            (after? ['f', 'a', 'l', 's', 'e'] cs).map fun rest => (.boolean false, rest)
          else
            match moment? cs with
            | some rest => some (.moment, rest)
            | none => number cs

/-! ### Statements -/

/-- A header after its opening bracket or brackets: its key, the closing bracket or
brackets and the end of the line. -/
def header (closing : List Char) (make : List String → String → Statement) :
    Reader Statement := fun cs => do
  let ((path, last), rest) ← key cs
  let rest ← after? closing rest
  let rest ← endOfLine? rest
  return (make path last, rest)

def definition : Reader Statement := fun cs => do
  let ((path, last), rest) ← key cs
  let rest ← after? ['='] rest
  let (value, rest) ← value (depthLimit - 1) (skipSpaces rest)
  let rest ← endOfLine? rest
  return (.define path last value, rest)

/-- The statements of a document, of which at most `fuel` lines are read. -/
def statements : (fuel : Nat) → List Char → Option (List Statement)
  | 0, _ => none
  | fuel + 1, cs => do
      match skipSpaces cs with
      | [] => return []
      | '#' :: rest => statements fuel (← endOfLine? ('#' :: rest))
      | '\n' :: rest => statements fuel rest
      | '\r' :: rest => statements fuel (← lineEnding? ('\r' :: rest))
      | '[' :: '[' :: rest =>
          let (statement, rest) ← header [']', ']'] .repeated rest
          return statement :: (← statements fuel rest)
      | '[' :: rest =>
          let (statement, rest) ← header [']'] .table rest
          return statement :: (← statements fuel rest)
      | rest =>
          let (statement, rest) ← definition rest
          return statement :: (← statements fuel rest)

def withoutMark : List Char → List Char
  | c :: rest => if c.toNat = 0xfeff then rest else c :: rest
  | [] => []

def parse (text : String) : Option Value :=
  let cs := withoutMark text.toList
  (statements (cs.length + 1) cs).bind assemble

end PadCapture.Toml
