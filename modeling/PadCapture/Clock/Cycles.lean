/-!
# Cycle counts of elapsed time

A clock domain of `frequency` hertz counts the whole cycles that fit into an
elapsed time.  Both directions of the conversion are exact: the products are
formed without bound, and only the final result is fitted back into 64 bits.
-/

namespace PadCapture.Clock

def nanosPerSecond : Nat := 1000000000

def largestCount : Nat := UInt64.size - 1

/-- Whole cycles of a `frequency` hertz clock in `elapsed` nanoseconds, which
is `elapsed * frequency / 10 ^ 9` rounded down.  A count beyond 64 bits stays
at the largest one. -/
def cyclesOfNanos (elapsed : UInt64) (frequency : UInt32) : UInt64 :=
  .ofNat (min (elapsed.toNat * frequency.toNat / nanosPerSecond) largestCount)

def quotientUp (numerator denominator : Nat) : Nat :=
  (numerator + (denominator - 1)) / denominator

/-- The first elapsed time at which a `frequency` hertz clock has counted
`cycles`.  There is none for a clock that stands still, and none when that
moment lies beyond 64 bits of nanoseconds. -/
def nanosOfCycles? (cycles : UInt64) (frequency : UInt32) : Option UInt64 :=
  if frequency = 0 then none
  else
    let elapsed := quotientUp (cycles.toNat * nanosPerSecond) frequency.toNat
    if elapsed ≤ largestCount then some (.ofNat elapsed) else none

theorem toNat_cyclesOfNanos (elapsed : UInt64) (frequency : UInt32) :
    (cyclesOfNanos elapsed frequency).toNat =
      min (elapsed.toNat * frequency.toNat / nanosPerSecond) largestCount := by
  have small :
      min (elapsed.toNat * frequency.toNat / nanosPerSecond) largestCount < UInt64.size := by
    simp only [largestCount, UInt64.size]
    omega
  simp only [cyclesOfNanos]
  exact UInt64.toNat_ofNat_of_lt' small

end PadCapture.Clock
