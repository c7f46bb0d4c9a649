import PadCapture.Proofs.Clock.Conversion

/-!
# Converting there and back

A count rounds down and a moment rounds up.  From a time to its count and back one comes to
the first moment of this count, which is not later and has the same count.  From a count to
its moment and back one may find more cycles: those of a clock that counts several of them
in one nanosecond.
-/

namespace PadCapture.Clock

variable {cycles elapsed first : UInt64} {frequency : UInt32}

/-- A count that is reached at all has a moment, and it is reached from then on. -/
theorem exists_first_of_le (running : frequency ≠ 0)
    (counted : cycles ≤ cyclesOfNanos elapsed frequency) :
    ∃ first, nanosOfCycles? cycles frequency = some first ∧ first ≤ elapsed := by
  have moment_le := (le_cyclesOfNanos_iff_momentOf_le running).mp counted
  have early := Nat.le_trans moment_le (toNat_le_largestCount elapsed)
  have reached := nanosOfCycles?_of_le running early
  refine ⟨_, reached, ?_⟩
  rw [UInt64.le_iff_toNat_le, toNat_of_nanosOfCycles? running reached]
  exact moment_le

theorem le_cyclesOfNanos_of_nanosOfCycles? (running : frequency ≠ 0)
    (reached : nanosOfCycles? cycles frequency = some first) :
    cycles ≤ cyclesOfNanos first frequency := by
  rw [le_cyclesOfNanos_iff_momentOf_le running, toNat_of_nanosOfCycles? running reached]

/-- From a time to its count and back leads to a time with the same count. -/
theorem exists_first_of_count (running : frequency ≠ 0) (elapsed : UInt64) :
    ∃ first, nanosOfCycles? (cyclesOfNanos elapsed frequency) frequency = some first ∧
      first ≤ elapsed ∧ cyclesOfNanos first frequency = cyclesOfNanos elapsed frequency := by
  obtain ⟨first, reached, earlier⟩ := exists_first_of_le running (UInt64.le_refl _)
  have atMost := cyclesOfNanos_mono frequency earlier
  have atLeast := le_cyclesOfNanos_of_nanosOfCycles? running reached
  exact ⟨first, reached, earlier, UInt64.le_antisymm atMost atLeast⟩

/-- A larger count has a later moment, and where it has one, the smaller count has one too. -/
theorem nanosOfCycles?_mono (running : frequency ≠ 0) {fewer : UInt64} (le : fewer ≤ cycles)
    (reached : nanosOfCycles? cycles frequency = some first) :
    ∃ earlier, nanosOfCycles? fewer frequency = some earlier ∧ earlier ≤ first :=
  exists_first_of_le running
    (UInt64.le_trans le (le_cyclesOfNanos_of_nanosOfCycles? running reached))

/-- The moment of a count is less than a nanosecond late. -/
theorem momentOf_mul_lt (running : frequency ≠ 0) :
    momentOf cycles frequency * frequency.toNat <
      cycles.toNat * nanosPerSecond + frequency.toNat := by
  have positive := toNat_pos_of_ne_zero running
  have rounded := Nat.div_mul_le_self
    (cycles.toNat * nanosPerSecond + (frequency.toNat - 1)) frequency.toNat
  rw [momentOf, quotientUp]
  omega

theorem ceilDiv_sub_one {numerator denominator : Nat} (numerator_pos : 0 < numerator)
    (denominator_pos : 0 < denominator) :
    numerator ⌈/⌉ denominator - 1 = (numerator - 1) / denominator := by
  have shifted : numerator + denominator - 1 = numerator - 1 + denominator := by omega
  rw [Nat.ceilDiv_eq_add_pred_div, shifted, Nat.add_div_right _ denominator_pos,
    Nat.succ_sub_one]

/-- At the moment of a count no more cycles have been counted than can pass within the same
nanosecond. -/
theorem toNat_cyclesOfNanos_le_of_nanosOfCycles? (running : frequency ≠ 0)
    (reached : nanosOfCycles? cycles frequency = some first) :
    (cyclesOfNanos first frequency).toNat ≤
      cycles.toNat + (frequency.toNat ⌈/⌉ nanosPerSecond - 1) := by
  have positive := toNat_pos_of_ne_zero running
  have second_pos : 0 < nanosPerSecond := by decide
  have late : momentOf cycles frequency * frequency.toNat <
      cycles.toNat * nanosPerSecond + frequency.toNat := momentOf_mul_lt running
  rw [← toNat_of_nanosOfCycles? running reached] at late
  rw [toNat_cyclesOfNanos, ceilDiv_sub_one positive second_pos]
  calc min (first.toNat * frequency.toNat / nanosPerSecond) largestCount
      ≤ first.toNat * frequency.toNat / nanosPerSecond := Nat.min_le_left _ _
    _ ≤ (cycles.toNat * nanosPerSecond + (frequency.toNat - 1)) / nanosPerSecond :=
        Nat.div_le_div_right (by omega)
    _ = cycles.toNat + (frequency.toNat - 1) / nanosPerSecond := by
        rw [Nat.mul_comm, Nat.mul_add_div second_pos]

theorem cyclesOfNanos_of_nanosOfCycles? (running : frequency ≠ 0)
    (slow : frequency.toNat ≤ nanosPerSecond)
    (reached : nanosOfCycles? cycles frequency = some first) :
    cyclesOfNanos first frequency = cycles := by
  have atLeast := le_cyclesOfNanos_of_nanosOfCycles? running reached
  have atMost := toNat_cyclesOfNanos_le_of_nanosOfCycles? running reached
  have single : frequency.toNat ⌈/⌉ nanosPerSecond ≤ 1 := by
    rw [ceilDiv_le_iff_le_mul (by decide), Nat.mul_one]
    exact slow
  apply UInt64.le_antisymm _ atLeast
  rw [UInt64.le_iff_toNat_le]
  omega

/-- Both conversions of a running clock are monotone.  From a time to its count and back leads
to a time that is not later and has the same count.  From a count to its moment and back
adds less than the cycles of one nanosecond, rounded up, and so nothing up to a frequency
of one cycle for each nanosecond. -/
theorem conversions_round_trip (frequency : UInt32) (running : frequency ≠ 0) :
    (∀ elapsed, ∃ first,
      nanosOfCycles? (cyclesOfNanos elapsed frequency) frequency = some first ∧
      first ≤ elapsed ∧ cyclesOfNanos first frequency = cyclesOfNanos elapsed frequency) ∧
    (∀ cycles first, nanosOfCycles? cycles frequency = some first →
      cycles ≤ cyclesOfNanos first frequency ∧
      (cyclesOfNanos first frequency).toNat ≤
        cycles.toNat + (frequency.toNat ⌈/⌉ nanosPerSecond - 1) ∧
      (frequency.toNat ≤ nanosPerSecond → cyclesOfNanos first frequency = cycles)) ∧
    (∀ earlier later, earlier ≤ later →
      cyclesOfNanos earlier frequency ≤ cyclesOfNanos later frequency) ∧
    ∀ fewer more later, fewer ≤ more → nanosOfCycles? more frequency = some later →
      ∃ earlier, nanosOfCycles? fewer frequency = some earlier ∧ earlier ≤ later := by
  refine ⟨exists_first_of_count running, ?_, ?_, ?_⟩
  · intro cycles first reached
    exact ⟨le_cyclesOfNanos_of_nanosOfCycles? running reached,
      toNat_cyclesOfNanos_le_of_nanosOfCycles? running reached,
      fun slow => cyclesOfNanos_of_nanosOfCycles? running slow reached⟩
  · intro earlier later le
    exact cyclesOfNanos_mono frequency le
  · intro fewer more later le reached
    exact nanosOfCycles?_mono running le reached

/-- The fastest clock counts up to five cycles in one nanosecond.  At the moment of its
thirteenth cycle four more have passed already, as many as there can be. -/
theorem conversions_round_trip_at_fastest :
    (4294967295 : UInt32) ≠ 0 ∧ nanosOfCycles? 13 4294967295 = some 4 ∧
      (cyclesOfNanos 4 4294967295).toNat = 17 ∧
      (17 : Nat) ≤ 13 + ((4294967295 : UInt32).toNat ⌈/⌉ nanosPerSecond - 1) ∧
      (4294967295 : UInt32).toNat ⌈/⌉ nanosPerSecond = 5 := by
  have running : (4294967295 : UInt32) ≠ 0 := by decide
  have reached : nanosOfCycles? 13 4294967295 = some 4 := by decide +kernel
  have counted : (cyclesOfNanos 4 4294967295).toNat = 17 := by decide +kernel
  have bound := ((conversions_round_trip 4294967295 running).2.1 13 4 reached).2.1
  rw [counted] at bound
  exact ⟨running, reached, counted, bound, by decide +kernel⟩

end PadCapture.Clock
