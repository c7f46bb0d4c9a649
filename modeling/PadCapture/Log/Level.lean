import PadCapture.Numeral.Integer
import PadCapture.Text.Blank

/-!
# Levels of messages
-/

namespace PadCapture

inductive Level where
  | error
  | warn
  | info
  | debug
  | trace
deriving DecidableEq, Repr

namespace Level

def all : List Level := [error, warn, info, debug, trace]

def number : Level → Nat
  | error => 1
  | warn => 2
  | info => 3
  | debug => 4
  | trace => 5

def name : Level → String
  | error => "ERROR"
  | warn => "WARN"
  | info => "INFO"
  | debug => "DEBUG"
  | trace => "TRACE"

/-- The level with the given number or the given name in letters of any case. -/
def ofText? (text : String) : Option Level :=
  let numbered :=
    match Numeral.parseInteger .nat64 text with
    | .ok number => all.find? fun level : Level => (level.number : Int) == number
    | .error _ => none
  numbered.or (all.find? fun level : Level => level.name == Text.uppercase text)

/-- The level that a setting asks for.  Blanks around it do not matter, and a
missing or unreadable setting means `info`. -/
def ofSetting (setting : Option String) : Level :=
  match setting with
  | some text => (ofText? (Text.trimBlanks text)).getD info
  | none => info

/-- Whether messages of `level` are shown to a reader who asks for `wanted`. -/
def shownAt (level wanted : Level) : Bool := level.number ≤ wanted.number

end Level

end PadCapture
