import PadCapture.Floating.Format

/-!
# Floating-point numbers

A number of a binary format is not-a-number, an infinity or a signed rank.
Every operation forms the exact rational result and rounds it once to the
nearest number of the format.
-/

namespace PadCapture

inductive Floating (format : FloatFormat) where
  | nan
  | infinite (negative : Bool)
  | finite (negative : Bool) (rank : Fin format.rankCount)
deriving DecidableEq, Repr

abbrev Single := Floating .single

abbrev Double := Floating .double

namespace Floating

variable {format : FloatFormat}

def zero (negative : Bool) : Floating format :=
  .finite negative ⟨0, format.rankCount_pos⟩

/-- The number nearest to a magnitude with the given sign.  A magnitude that
rounds beyond the finite ones becomes infinite. -/
def ofMagnitude (negative : Bool) (magnitude : Rat) : Floating format :=
  let rank := format.nearestRank magnitude
  if finite : rank < format.rankCount then .finite negative ⟨rank, finite⟩
  else .infinite negative

/-- The number nearest to `q`, where zero is positive. -/
def nearest (q : Rat) : Floating format :=
  if q < 0 then ofMagnitude true (-q) else ofMagnitude false q

def signedValue (format : FloatFormat) (negative : Bool) (rank : Nat) : Rat :=
  if negative then -format.magnitude rank else format.magnitude rank

def value? : Floating format → Option Rat
  | .finite negative rank => some (signedValue format negative rank)
  | _ => none

def isFinite : Floating format → Bool
  | .finite _ _ => true
  | _ => false

def neg : Floating format → Floating format
  | .nan => .nan
  | .infinite negative => .infinite (!negative)
  | .finite negative rank => .finite (!negative) rank

def abs : Floating format → Floating format
  | .nan => .nan
  | .infinite _ => .infinite false
  | .finite _ rank => .finite false rank

def add : Floating format → Floating format → Floating format
  | .nan, _ => .nan
  | _, .nan => .nan
  | .infinite a, .infinite b => if a = b then .infinite a else .nan
  | .infinite a, .finite _ _ => .infinite a
  | .finite _ _, .infinite b => .infinite b
  | .finite a r, .finite b s =>
      let total := signedValue format a r + signedValue format b s
      if total = 0 then zero (a && b) else nearest total

def sub (x y : Floating format) : Floating format := add x (neg y)

def mul : Floating format → Floating format → Floating format
  | .nan, _ => .nan
  | _, .nan => .nan
  | .infinite a, .infinite b => .infinite (a != b)
  | .infinite a, .finite b s => if s.val = 0 then .nan else .infinite (a != b)
  | .finite a r, .infinite b => if r.val = 0 then .nan else .infinite (a != b)
  | .finite a r, .finite b s =>
      ofMagnitude (a != b) (format.magnitude r * format.magnitude s)

def div : Floating format → Floating format → Floating format
  | .nan, _ => .nan
  | _, .nan => .nan
  | .infinite _, .infinite _ => .nan
  | .infinite a, .finite b _ => .infinite (a != b)
  | .finite a _, .infinite b => zero (a != b)
  | .finite a r, .finite b s =>
      if s.val = 0 then
        if r.val = 0 then .nan else .infinite (a != b)
      else ofMagnitude (a != b) (format.magnitude r / format.magnitude s)

/-- Whether `x` is below `y`; not-a-number is neither below nor above. -/
def less : Floating format → Floating format → Bool
  | .nan, _ => false
  | _, .nan => false
  | .infinite a, .infinite b => a && !b
  | .infinite a, .finite _ _ => a
  | .finite _ _, .infinite b => !b
  | .finite a r, .finite b s => signedValue format a r < signedValue format b s

/-- Whether `x` is at most `y`; not-a-number is neither below nor above. -/
def atMost : Floating format → Floating format → Bool
  | .nan, _ => false
  | _, .nan => false
  | .infinite a, .infinite b => a || !b
  | .infinite a, .finite _ _ => a
  | .finite _ _, .infinite b => !b
  | .finite a r, .finite b s => signedValue format a r ≤ signedValue format b s

/-- `x` moved into the range from `low` to `high`; not-a-number stays. -/
def clamp (x low high : Floating format) : Floating format :=
  if x.less low then low else if high.less x then high else x

def convert {target : FloatFormat} : Floating format → Floating target
  | .nan => .nan
  | .infinite negative => .infinite negative
  | .finite negative rank => ofMagnitude negative (format.magnitude rank)

/-- A rational between the square root of `q` and itself that rounds as the
root does: two bits more than the format has are kept, and a further half stands
for a remainder. -/
def rootApproximation (format : FloatFormat) (q : Rat) : Rat :=
  let shift := ((format.precision : Int) + 1 - FloatFormat.binaryExponent q / 2).toNat
  let scaled := (q * FloatFormat.twoPower (2 * shift)).floor.toNat
  let root := scaled.sqrt
  let exact : Bool := ((root * root : Nat) : Rat) == q * FloatFormat.twoPower (2 * shift)
  ((2 * root + (if exact then 0 else 1) : Nat) : Rat) *
    FloatFormat.twoPower (-(shift : Int) - 1)

def sqrt : Floating format → Floating format
  | .nan => .nan
  | .infinite negative => if negative then .nan else .infinite false
  | .finite negative rank =>
      if rank.val = 0 then .finite negative rank
      else if negative then .nan
      else ofMagnitude false (rootApproximation format (format.magnitude rank))

/-- The nearest integer, where a half goes away from zero, moved into a byte.
Not-a-number gives zero. -/
def toByte : Floating format → UInt8
  | .nan => 0
  | .infinite negative => if negative then 0 else 255
  | .finite negative rank =>
      if negative then 0
      else .ofNat (min (format.magnitude rank + 1 / 2).floor.toNat 255)

/-- The bit pattern as a number.  Not-a-number has several; this is the quiet one
without sign. -/
def bits : Floating format → Nat
  | .nan => format.rankCount + format.fractions / 2
  | .infinite negative => format.rankCount + signBit negative
  | .finite negative rank => rank.val + signBit negative
where
  signBit (negative : Bool) : Nat :=
    if negative then format.rankCount + format.fractions else 0

end Floating

namespace Single

def ofByte (byte : UInt8) : Single := .nearest (byte.toNat : Rat)

/-- The length of the vector `(x, y)`, formed with 64-bit operations and rounded
once more. -/
def hypot (x y : Single) : Single :=
  let wideX : Double := x.convert
  let wideY : Double := y.convert
  ((wideX.mul wideX).add (wideY.mul wideY)).sqrt.convert

end Single

end PadCapture
