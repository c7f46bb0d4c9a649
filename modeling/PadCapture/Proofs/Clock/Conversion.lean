import PadCapture.Clock.Cycles
import Mathlib.Algebra.Order.Floor.Div

/-!
# Cycle counts and the moments that reach them

Counting rounds down and stops at the largest count; the moment of a count rounds up and
may lie beyond 64 bits.  Both amount to comparing the same two products, so a count is
reached exactly from its moment on, and there is no moment just when the count is never
reached.
-/

namespace PadCapture.Clock

variable {cycles elapsed first : UInt64} {frequency : UInt32}

theorem toNat_le_largestCount (count : UInt64) : count.toNat ≤ largestCount :=
  Nat.le_sub_one_of_lt count.toNat_lt

theorem le_largestCount_iff (n : Nat) : n ≤ largestCount ↔ n < 2 ^ 64 :=
  Nat.le_sub_one_iff_lt (by decide)

theorem quotientUp_eq_ceilDiv (numerator : Nat) {denominator : Nat} (positive : 0 < denominator) :
    quotientUp numerator denominator = numerator ⌈/⌉ denominator := by
  rw [quotientUp, Nat.ceilDiv_eq_add_pred_div, Nat.add_sub_assoc positive]

/-- The quotient rounded up is the least number whose multiple is large enough. -/
theorem quotientUp_le_iff {numerator denominator bound : Nat} (positive : 0 < denominator) :
    quotientUp numerator denominator ≤ bound ↔ numerator ≤ bound * denominator := by
  rw [quotientUp_eq_ceilDiv numerator positive, ceilDiv_le_iff_le_mul positive, Nat.mul_comm]

/-- Rounding up adds one to a quotient that leaves a remainder. -/
theorem quotientUp_eq_ite (numerator : Nat) {denominator : Nat} (positive : 0 < denominator) :
    quotientUp numerator denominator =
      if numerator % denominator = 0 then numerator / denominator
      else numerator / denominator + 1 := by
  have below : denominator - 1 < denominator := Nat.sub_one_lt_of_lt positive
  have within := Nat.mod_lt numerator positive
  rw [quotientUp, Nat.add_div positive, Nat.div_eq_of_lt below, Nat.mod_eq_of_lt below]
  split <;> split <;> omega

/-- The moment at which a clock has counted `cycles`, however late it is. -/
def momentOf (cycles : UInt64) (frequency : UInt32) : Nat :=
  quotientUp (cycles.toNat * nanosPerSecond) frequency.toNat

theorem toNat_pos_of_ne_zero (running : frequency ≠ 0) : 0 < frequency.toNat := by
  apply Nat.pos_of_ne_zero
  intro stopped
  exact running (UInt32.toNat_inj.mp stopped)

theorem cyclesOfNanos_mono (frequency : UInt32) (later : first ≤ elapsed) :
    cyclesOfNanos first frequency ≤ cyclesOfNanos elapsed frequency := by
  rw [UInt64.le_iff_toNat_le, toNat_cyclesOfNanos, toNat_cyclesOfNanos]
  have products := Nat.mul_le_mul_right frequency.toNat (UInt64.le_iff_toNat_le.mp later)
  have quotients := Nat.div_le_div_right (c := nanosPerSecond) products
  omega

/-- The limit of the count hides nothing, because no count lies beyond it. -/
theorem le_cyclesOfNanos_iff_mul_le :
    cycles ≤ cyclesOfNanos elapsed frequency ↔
      cycles.toNat * nanosPerSecond ≤ elapsed.toNat * frequency.toNat := by
  have within := toNat_le_largestCount cycles
  have second_pos : 0 < nanosPerSecond := by decide
  rw [UInt64.le_iff_toNat_le, toNat_cyclesOfNanos, le_min_iff, Nat.le_div_iff_mul_le second_pos]
  exact and_iff_left within

/-- A running clock has counted `cycles` from their moment on. -/
theorem le_cyclesOfNanos_iff_momentOf_le (running : frequency ≠ 0) :
    cycles ≤ cyclesOfNanos elapsed frequency ↔ momentOf cycles frequency ≤ elapsed.toNat := by
  rw [le_cyclesOfNanos_iff_mul_le, momentOf, quotientUp_le_iff (toNat_pos_of_ne_zero running)]

theorem nanosOfCycles?_of_le (running : frequency ≠ 0)
    (early : momentOf cycles frequency ≤ largestCount) :
    nanosOfCycles? cycles frequency = some (.ofNat (momentOf cycles frequency)) := by
  rw [nanosOfCycles?, if_neg running]
  exact if_pos early

theorem nanosOfCycles?_eq_none_iff (running : frequency ≠ 0) :
    nanosOfCycles? cycles frequency = none ↔ largestCount < momentOf cycles frequency := by
  constructor
  · intro absent
    by_contra early
    rw [nanosOfCycles?_of_le running (Nat.not_lt.mp early)] at absent
    cases absent
  · intro late
    rw [nanosOfCycles?, if_neg running]
    exact if_neg (Nat.not_le.mpr late)

theorem toNat_of_nanosOfCycles? (running : frequency ≠ 0)
    (reached : nanosOfCycles? cycles frequency = some first) :
    first.toNat = momentOf cycles frequency := by
  by_cases early : momentOf cycles frequency ≤ largestCount
  · rw [nanosOfCycles?_of_le running early] at reached
    cases reached
    apply UInt64.toNat_ofNat_of_lt'
    exact Nat.lt_of_le_of_lt early (by decide)
  · rw [(nanosOfCycles?_eq_none_iff running).mpr (Nat.not_le.mp early)] at reached
    cases reached

/-- The two conversions of a running clock form a Galois connection: where a count has a
moment, it is reached exactly from this moment on, and it has none exactly when it is never
reached. -/
theorem nanosOfCycles?_adjoint (cycles : UInt64) (frequency : UInt32) (running : frequency ≠ 0) :
    (∀ first elapsed, nanosOfCycles? cycles frequency = some first →
      (cycles ≤ cyclesOfNanos elapsed frequency ↔ first ≤ elapsed)) ∧
    (nanosOfCycles? cycles frequency = none ↔
      ¬ ∃ elapsed, cycles ≤ cyclesOfNanos elapsed frequency) := by
  constructor
  · intro first elapsed reached
    rw [le_cyclesOfNanos_iff_momentOf_le running, UInt64.le_iff_toNat_le,
      toNat_of_nanosOfCycles? running reached]
  · rw [nanosOfCycles?_eq_none_iff running]
    constructor
    · rintro late ⟨elapsed, counted⟩
      have moment_le := (le_cyclesOfNanos_iff_momentOf_le running).mp counted
      have elapsed_le := toNat_le_largestCount elapsed
      omega
    · intro never
      by_contra early
      -- The last moment of all reaches every count that has a moment.
      apply never
      refine ⟨.ofNat largestCount, ?_⟩
      rw [le_cyclesOfNanos_iff_momentOf_le running]
      exact Nat.not_lt.mp early

/-- The fastest clock stands at the largest count for most of the time, and reaches it
exactly from the moment of this count on. -/
theorem nanosOfCycles?_adjoint_at_limit :
    (4294967295 : UInt32) ≠ 0 ∧
      nanosOfCycles? 18446744073709551615 4294967295 = some 4294967297000000000 ∧
      ∀ elapsed, 18446744073709551615 ≤ cyclesOfNanos elapsed 4294967295 ↔
        4294967297000000000 ≤ elapsed := by
  have running : (4294967295 : UInt32) ≠ 0 := by decide
  have reached : nanosOfCycles? 18446744073709551615 4294967295 = some 4294967297000000000 := by
    decide +kernel
  have adjoint := nanosOfCycles?_adjoint 18446744073709551615 4294967295 running
  exact ⟨running, reached, fun elapsed => adjoint.1 _ elapsed reached⟩

end PadCapture.Clock
