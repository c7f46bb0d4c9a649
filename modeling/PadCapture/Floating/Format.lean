/-!
# Binary floating-point formats

The finite magnitudes of a binary format are ranked: rank zero is zero, and
each further rank is the next larger magnitude.  The first `fractions` ranks
are equally spaced, and so are the `fractions` ranks of each later binade,
where the spacing doubles from one binade to the next after the first two.
The rank of a magnitude is also its bit pattern, read as a number.
-/

namespace PadCapture

/-- A binary format: the significant bits of a number, the binary exponent of
the smallest spacing, and the number of binades after the first. -/
structure FloatFormat where
  precision : Nat
  leastExponent : Int
  binades : Nat
deriving DecidableEq, Repr

namespace FloatFormat

def single : FloatFormat := ⟨24, -149, 254⟩

def double : FloatFormat := ⟨53, -1074, 2046⟩

def fractions (format : FloatFormat) : Nat := 1 <<< (format.precision - 1)

def rankCount (format : FloatFormat) : Nat := format.fractions * (format.binades + 1)

theorem fractions_pos (format : FloatFormat) : 0 < format.fractions := by
  simp only [fractions, Nat.shiftLeft_eq, Nat.one_mul]
  exact Nat.pow_pos (by decide)

theorem rankCount_pos (format : FloatFormat) : 0 < format.rankCount :=
  Nat.mul_pos format.fractions_pos (Nat.succ_pos _)

def twoPower (exponent : Int) : Rat := (2 : Rat) ^ exponent

/-- The magnitude of a rank.  Ranks beyond the finite ones continue the scale. -/
def magnitude (format : FloatFormat) (rank : Nat) : Rat :=
  let binade := rank / format.fractions
  let fraction := rank % format.fractions
  if binade = 0 then (fraction : Rat) * twoPower format.leastExponent
  else
    ((format.fractions + fraction : Nat) : Rat) *
      twoPower (format.leastExponent + ((binade - 1 : Nat) : Int))

/-- The integer nearest to a quotient, where a half goes to the even side. -/
def nearestEven (numerator denominator : Nat) : Nat :=
  let quotient := numerator / denominator
  let twice := 2 * (numerator % denominator)
  if twice < denominator then quotient
  else if denominator < twice then quotient + 1
  else if quotient % 2 = 0 then quotient
  else quotient + 1

/-- The largest exponent of a power of two that is at most `q`, for positive
`q`. -/
def binaryExponent (q : Rat) : Int :=
  let estimate := (q.num.natAbs.log2 : Int) - (q.den.log2 : Int)
  if twoPower estimate ≤ q then estimate else estimate - 1

/-- The rank on the unbounded scale that is nearest to the magnitude `q`, where
a half goes to the even rank. -/
def nearestRank (format : FloatFormat) (q : Rat) : Nat :=
  if q ≤ 0 then 0
  else
    let exponent :=
      max format.leastExponent (binaryExponent q - ((format.precision - 1 : Nat) : Int))
    let scaled := q * twoPower (-exponent)
    (exponent - format.leastExponent).toNat * format.fractions +
      nearestEven scaled.num.natAbs scaled.den

end FloatFormat

end PadCapture
