import PadCapture.Floating.Basic
import PadCapture.Numeral.Integer
import PadCapture.Toml.Value

/-!
# Reading values as settings

A record is written as a table or as an array of its fields in their order;
fields that are missing keep their defaults, and entries with other names are
ignored.
-/

namespace PadCapture.Toml

abbrev Fields := List (String × Value)

namespace Value

def text? : Value → Option String
  | .text content => some content
  | _ => none

def boolean? : Value → Option Bool
  | .boolean value => some value
  | _ => none

def integer? (kind : Numeral.IntegerKind) : Value → Option Int
  | .integer value => if kind.holds value then some value else none
  | _ => none

/-- A number as a 32-bit one.  An integer is converted directly, and a
floating-point number is rounded a second time. -/
def single? : Value → Option Single
  | .integer value => some (.nearest value)
  | .float value => some value.convert
  | _ => none

def list? {α : Type} (item : Value → Option α) : Value → Option (List α)
  | .array items => items.mapM item
  | _ => none

def entries? {α : Type} (item : Value → Option α) : Value → Option (List (String × α))
  | .table entries => entries.mapM fun entry => (item entry.2).map (entry.1, ·)
  | _ => none

/-- The fields of a record with the given names in order.  A date is a record
without any of them. -/
def fields? (names : List String) : Value → Option Fields
  | .table entries => some entries
  | .array items => some (names.zip items)
  | .moment => some []
  | _ => none

/-- One of the given names, written as a string, or as a table of one entry that
is itself an empty table or array. -/
def choice? : Value → Option String
  | .text name => some name
  | .table [(name, .table [])] => some name
  | .table [(name, .array [])] => some name
  | _ => none

end Value

/-- The field of the given name as `read` understands it, or `default` where it is
missing. -/
def Fields.get {α : Type} (fields : Fields) (name : String) (default : α)
    (read : Value → Option α) : Option α :=
  match fields.lookup name with
  | some value => read value
  | none => some default

end PadCapture.Toml
