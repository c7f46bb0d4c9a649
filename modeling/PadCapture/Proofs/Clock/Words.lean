import PadCapture.Proofs.Clock.Conversion

/-!
# Conversions in machine words

The conversions are defined by products without bound.  Words of 128 bits are wide enough for
all of them: carried out there, no operation before the last one wraps around, and the last
one, back into 64 bits, fails just for the counts and moments that are too large.  When the
seconds are split off first, even words of 64 bits hold the product of the rest.
-/

namespace PadCapture.Clock

/-- A word of 128 bits.  Its arithmetic wraps around. -/
abbrev Wide : Type := BitVec 128

namespace Wide

def ofCount (count : UInt64) : Wide := count.toBitVec.setWidth 128

def ofFrequency (frequency : UInt32) : Wide := frequency.toBitVec.setWidth 128

/-- The word as a count of 64 bits, if it is one. -/
def toCount? (word : Wide) : Option UInt64 :=
  if word.toNat < 2 ^ 64 then some (.ofNat word.toNat) else none

def nanosPerSecond : Wide := 1000000000

def cycleProduct (elapsed : UInt64) (frequency : UInt32) : Wide :=
  ofCount elapsed * ofFrequency frequency

def nanoProduct (cycles : UInt64) : Wide := ofCount cycles * nanosPerSecond

def quotientUp (numerator denominator : Wide) : Wide :=
  let quotient := numerator / denominator
  if numerator % denominator = 0 then quotient else quotient + 1

/-- Whole cycles in the elapsed time.  There is no such count if it lies beyond 64 bits. -/
def cyclesOfNanos? (elapsed : UInt64) (frequency : UInt32) : Option UInt64 :=
  toCount? (cycleProduct elapsed frequency / nanosPerSecond)

def nanosOfCycles? (cycles : UInt64) (frequency : UInt32) : Option UInt64 :=
  if frequency = 0 then none
  else toCount? (quotientUp (nanoProduct cycles) (ofFrequency frequency))

variable (elapsed cycles : UInt64) (frequency : UInt32)

@[simp] theorem toNat_ofCount : (ofCount elapsed).toNat = elapsed.toNat :=
  BitVec.toNat_setWidth_of_le (by decide)

@[simp] theorem toNat_ofFrequency : (ofFrequency frequency).toNat = frequency.toNat :=
  BitVec.toNat_setWidth_of_le (by decide)

theorem toNat_nanosPerSecond : nanosPerSecond.toNat = Clock.nanosPerSecond := rfl

theorem mul_lt_two_pow_96 : elapsed.toNat * frequency.toNat < 2 ^ 96 := by
  have product := Nat.mul_lt_mul'' elapsed.toNat_lt frequency.toNat_lt
  rwa [← Nat.pow_add] at product

theorem toNat_cycleProduct :
    (cycleProduct elapsed frequency).toNat = elapsed.toNat * frequency.toNat := by
  have small := mul_lt_two_pow_96 elapsed frequency
  rw [cycleProduct, BitVec.toNat_mul_of_lt] <;> rw [toNat_ofCount, toNat_ofFrequency]
  exact Nat.lt_trans small (by decide)

theorem toNat_nanoProduct : (nanoProduct cycles).toNat = cycles.toNat * Clock.nanosPerSecond := by
  have within := cycles.toNat_lt
  rw [nanoProduct, BitVec.toNat_mul_of_lt] <;> rw [toNat_ofCount, toNat_nanosPerSecond]
  simp only [Clock.nanosPerSecond]
  omega

/-- A quotient that leaves a remainder is not the largest word, so one can be added. -/
theorem toNat_quotientUp {numerator denominator : Wide} (positive : 0 < denominator.toNat) :
    (quotientUp numerator denominator).toNat =
      Clock.quotientUp numerator.toNat denominator.toNat := by
  have remainder : numerator % denominator = 0 ↔ numerator.toNat % denominator.toNat = 0 := by
    rw [← BitVec.toNat_inj, BitVec.toNat_umod]
    rfl
  rw [quotientUp_eq_ite _ positive, quotientUp]
  by_cases exactly : numerator % denominator = 0
  · rw [if_pos exactly, if_pos (remainder.mp exactly), BitVec.toNat_udiv]
  · have left := mt remainder.mpr exactly
    have several : 1 < denominator.toNat := by
      by_contra few
      have single : denominator.toNat = 1 := by omega
      rw [single, Nat.mod_one] at left
      exact left rfl
    have numerator_pos : 0 < numerator.toNat := by
      apply Nat.pos_of_ne_zero
      intro zero
      rw [zero, Nat.zero_mod] at left
      exact left rfl
    have smaller := Nat.div_lt_self numerator_pos several
    have within := numerator.isLt
    have quotient : (numerator / denominator).toNat = numerator.toNat / denominator.toNat :=
      BitVec.toNat_udiv
    rw [if_neg exactly, if_neg left, BitVec.toNat_add_of_lt, quotient]
    · rfl
    · rw [quotient]
      exact Nat.lt_of_le_of_lt smaller within

theorem toNat_cycleQuotient :
    (cycleProduct elapsed frequency / nanosPerSecond).toNat =
      elapsed.toNat * frequency.toNat / Clock.nanosPerSecond := by
  rw [BitVec.toNat_udiv, toNat_cycleProduct, toNat_nanosPerSecond]

theorem toCount?_eq_none_iff (word : Wide) : toCount? word = none ↔ 2 ^ 64 ≤ word.toNat := by
  rw [toCount?]
  split <;> simp <;> omega

/-- The count is too large for 64 bits just when the product reaches this many nanoseconds. -/
theorem cyclesOfNanos?_eq_none_iff :
    cyclesOfNanos? elapsed frequency = none ↔
      2 ^ 64 * Clock.nanosPerSecond ≤ elapsed.toNat * frequency.toNat := by
  rw [cyclesOfNanos?, toCount?_eq_none_iff, toNat_cycleQuotient,
    Nat.le_div_iff_mul_le (by decide)]

/-- The exact count is that of the words, and a count that is too large is cut. -/
theorem cyclesOfNanos_eq_getD :
    Clock.cyclesOfNanos elapsed frequency =
      (cyclesOfNanos? elapsed frequency).getD (.ofNat (2 ^ 64 - 1)) := by
  rw [Clock.cyclesOfNanos, cyclesOfNanos?, toCount?, toNat_cycleQuotient]
  split
  · rename_i small
    rw [Nat.min_eq_left ((le_largestCount_iff _).mpr small)]
    rfl
  · rename_i large
    have beyond := Nat.not_le.mp (mt (le_largestCount_iff _).mp large)
    rw [Nat.min_eq_right (Nat.le_of_lt beyond)]
    rfl

/-- The exact moment is that of the words. -/
theorem nanosOfCycles?_eq :
    Clock.nanosOfCycles? cycles frequency = nanosOfCycles? cycles frequency := by
  unfold Clock.nanosOfCycles? nanosOfCycles?
  by_cases stopped : frequency = 0
  · rw [if_pos stopped, if_pos stopped]
  · have positive : 0 < (ofFrequency frequency).toNat := by
      rw [toNat_ofFrequency]
      exact toNat_pos_of_ne_zero stopped
    rw [if_neg stopped, if_neg stopped, toCount?, toNat_quotientUp positive, toNat_nanoProduct,
      toNat_ofFrequency]
    exact if_congr (le_largestCount_iff _) rfl rfl

end Wide

/-- Whole seconds make whole cycles, so only the rest of a second is rounded. -/
theorem mul_div_eq_seconds (elapsed frequency : Nat) :
    elapsed * frequency / nanosPerSecond =
      elapsed / nanosPerSecond * frequency +
        elapsed % nanosPerSecond * frequency / nanosPerSecond := by
  have split := Nat.div_add_mod elapsed nanosPerSecond
  have second_pos : 0 < nanosPerSecond := by decide
  calc elapsed * frequency / nanosPerSecond
      = (nanosPerSecond * (elapsed / nanosPerSecond) + elapsed % nanosPerSecond) * frequency /
          nanosPerSecond := by rw [split]
    _ = (nanosPerSecond * (elapsed / nanosPerSecond * frequency) +
          elapsed % nanosPerSecond * frequency) / nanosPerSecond := by
        rw [Nat.add_mul, Nat.mul_assoc]
    _ = elapsed / nanosPerSecond * frequency +
          elapsed % nanosPerSecond * frequency / nanosPerSecond := by
        rw [Nat.mul_add_div second_pos]

/-- The rest of a second is so short that its product fits into 64 bits. -/
theorem toNat_rest_mul (elapsed : UInt64) (frequency : UInt32) :
    (elapsed % 1000000000 * frequency.toUInt64).toNat =
      (elapsed % 1000000000).toNat * frequency.toNat := by
  have rest_lt : (elapsed % 1000000000).toNat < nanosPerSecond := by
    rw [UInt64.toNat_mod]
    exact Nat.mod_lt _ (by decide)
  have product := Nat.mul_lt_mul'' rest_lt frequency.toNat_lt
  rw [UInt64.toNat_mul, UInt32.toNat_toUInt64]
  exact Nat.mod_eq_of_lt (Nat.lt_trans product (by decide))

/-- In 128 bits neither conversion overflows before its last step, and the count is cut there
exactly from the stated product on.  The count is also made of that of the whole seconds and
that of the rest, for which 64 bits are enough. -/
theorem conversions_exact_in_words (elapsed cycles : UInt64) (frequency : UInt32) :
    let seconds := elapsed / 1000000000
    let rest := elapsed % 1000000000
    let restProduct := rest * frequency.toUInt64
    ((cyclesOfNanos elapsed frequency).toNat =
        min (seconds.toNat * frequency.toNat + restProduct.toNat / 1000000000) (2 ^ 64 - 1) ∧
      restProduct.toNat = rest.toNat * frequency.toNat) ∧
    (cyclesOfNanos elapsed frequency =
        (Wide.cyclesOfNanos? elapsed frequency).getD (.ofNat (2 ^ 64 - 1)) ∧
      (Wide.cycleProduct elapsed frequency).toNat = elapsed.toNat * frequency.toNat ∧
      (Wide.cycleProduct elapsed frequency).toNat < 2 ^ 96 ∧
      (Wide.cyclesOfNanos? elapsed frequency = none ↔
        2 ^ 64 * 1000000000 ≤ elapsed.toNat * frequency.toNat)) ∧
    nanosOfCycles? cycles frequency = Wide.nanosOfCycles? cycles frequency ∧
      (Wide.nanoProduct cycles).toNat = cycles.toNat * 1000000000 := by
  intro seconds rest restProduct
  have product := Wide.toNat_cycleProduct elapsed frequency
  have restSplit := toNat_rest_mul elapsed frequency
  refine ⟨⟨?_, restSplit⟩, ⟨Wide.cyclesOfNanos_eq_getD elapsed frequency, product, ?_,
    Wide.cyclesOfNanos?_eq_none_iff elapsed frequency⟩, Wide.nanosOfCycles?_eq cycles frequency,
    Wide.toNat_nanoProduct cycles⟩
  · rw [toNat_cyclesOfNanos, mul_div_eq_seconds, restSplit, UInt64.toNat_mod]
    rfl
  · rw [product]
    exact Wide.mul_lt_two_pow_96 elapsed frequency

/-- The largest count can be the true one, and a nanosecond later it is cut. -/
example :
    Wide.cyclesOfNanos? 4294967297000000000 4294967295 = some 18446744073709551615 ∧
      Wide.cyclesOfNanos? 4294967297000000001 4294967295 = none := by
  decide +kernel

end PadCapture.Clock
