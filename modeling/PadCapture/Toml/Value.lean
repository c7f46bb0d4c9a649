import PadCapture.Floating.Basic

/-!
# Values of TOML documents

A document is a table.  Dates and times are kept only as the fact that one
stands there: no setting holds one.
-/

namespace PadCapture.Toml

inductive Value where
  | text (text : String)
  | integer (value : Int)
  | float (value : Double)
  | boolean (value : Bool)
  | moment
  | array (items : List Value)
  | table (entries : List (String × Value))

end PadCapture.Toml
