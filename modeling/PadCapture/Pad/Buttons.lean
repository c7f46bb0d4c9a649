import PadCapture.Text.Quoted

/-!
# Buttons of a pad

The digital inputs of one pad are the bits of a 16-bit mask.  Twelve bits name
buttons; masks with other bits occur and keep them.
-/

namespace PadCapture

structure Buttons where
  mask : UInt16
deriving DecidableEq, Repr

namespace Buttons

def empty : Buttons := ⟨0⟩

def left : Buttons := ⟨0x0001⟩
def right : Buttons := ⟨0x0002⟩
def down : Buttons := ⟨0x0004⟩
def up : Buttons := ⟨0x0008⟩
def z : Buttons := ⟨0x0010⟩
def r : Buttons := ⟨0x0020⟩
def l : Buttons := ⟨0x0040⟩
def a : Buttons := ⟨0x0100⟩
def b : Buttons := ⟨0x0200⟩
def x : Buttons := ⟨0x0400⟩
def y : Buttons := ⟨0x0800⟩
def start : Buttons := ⟨0x1000⟩

/-- All bits that name a button. -/
def every : Buttons := ⟨0x1f7f⟩

def named : List (String × Buttons) :=
  [("LEFT", left), ("RIGHT", right), ("DOWN", down), ("UP", up), ("Z", z), ("R", r), ("L", l),
    ("A", a), ("B", b), ("X", x), ("Y", y), ("START", start)]

/-- The order in which buttons that are pressed together are bound. -/
def priority : List Buttons :=
  [a, b, x, y, down, left, right, up, l, r, z, start]

def isEmpty (buttons : Buttons) : Bool := buttons.mask == 0

/-- Whether all bits of `part` are among those of `buttons`. -/
def contains (buttons part : Buttons) : Bool := buttons.mask &&& part.mask == part.mask

def union (buttons other : Buttons) : Buttons := ⟨buttons.mask ||| other.mask⟩

def without (buttons other : Buttons) : Buttons := ⟨buttons.mask &&& ~~~other.mask⟩

/-- The bits that name a button. -/
def known (buttons : Buttons) : Buttons := ⟨buttons.mask &&& every.mask⟩

def ofName? (name : String) : Option Buttons := named.lookup name

/-- The button that is bound when all of `buttons` are pressed. -/
def first? (buttons : Buttons) : Option Buttons := priority.find? buttons.contains

/-- The names of the buttons in order of their bits, then the other bits in
hexadecimal. -/
def names (buttons : Buttons) : List String :=
  let rest := buttons.without every
  (named.filter fun entry => buttons.contains entry.2).map Prod.fst ++
    (if rest.isEmpty then [] else ["0x" ++ Text.hexadecimal rest.mask.toNat])

def text (buttons : Buttons) : String :=
  let shown := if buttons.isEmpty then "0x0" else " | ".intercalate buttons.names
  "PadButtons(" ++ shown ++ ")"

end Buttons

end PadCapture
