/-!
# Blank characters

The characters with the Unicode property `White_Space`, and text without them
at its ends.
-/

namespace PadCapture.Text

/-- Whether `c` is white space in the sense of Unicode. -/
def isBlank (c : Char) : Bool :=
  let code := c.toNat
  (9 ≤ code && code ≤ 13) || code = 0x20 || code = 0x85 || code = 0xa0 ||
    code = 0x1680 || (0x2000 ≤ code && code ≤ 0x200a) || code = 0x2028 ||
    code = 0x2029 || code = 0x202f || code = 0x205f || code = 0x3000

def trimBlanks (text : String) : String :=
  String.ofList
    (((text.toList.dropWhile isBlank).reverse.dropWhile isBlank).reverse)

/-- The upper-case form of `text`, which changes ASCII letters only. -/
def uppercase (text : String) : String :=
  String.ofList (text.toList.map Char.toUpper)

end PadCapture.Text
