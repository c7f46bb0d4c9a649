import PadCapture.Text.Combining

/-!
# Quoted text in messages

Messages show foreign text between double quotes, so that blanks, control
characters and combining marks in it can be seen.
-/

namespace PadCapture.Text

/-- The lower-case hexadecimal digits of `n`, without leading zeros. -/
def hexadecimal (n : Nat) : String :=
  String.ofList (Nat.toDigits 16 n)

/-- One character as it stands between the quotes: a quote and a backslash
follow a backslash, the common controls have a letter, and what has no printed
shape of its own is written by its code point. -/
def quotedChar (c : Char) : String :=
  if c = '"' then "\\\""
  else if c = '\\' then "\\\\"
  else if c = '\t' then "\\t"
  else if c = '\r' then "\\r"
  else if c = '\n' then "\\n"
  else if c.toNat = 0 then "\\0"
  else if isCombining c || isUnprintable c then
    "\\u\x7b" ++ hexadecimal c.toNat ++ "\x7d"
  else String.singleton c

def quoted (text : String) : String :=
  "\"" ++ String.join (text.toList.map quotedChar) ++ "\""

end PadCapture.Text
