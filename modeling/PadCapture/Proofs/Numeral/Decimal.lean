import PadCapture.Numeral.Integer

/-!
# Reading back decimal numerals

The numeral of an integer is read as the integer by every kind that holds it.
-/

namespace PadCapture.Numeral

theorem isDecimal_of_isDigit {c : Char} (digit : c.isDigit) : isDecimal c = true := by
  simp only [Char.isDigit, Bool.and_eq_true, decide_eq_true_eq] at digit
  simp only [isDecimal, Bool.and_eq_true, decide_eq_true_eq]
  exact digit

theorem digitValue_of_isDigit {c : Char} (digit : c.isDigit) :
    digitValue c = c.toNat - '0'.toNat := by
  rw [digitValue, if_pos (isDecimal_of_isDigit digit)]

theorem le_ofDigitChars (digits : List Char) (start : Nat) :
    start ≤ Nat.ofDigitChars 10 digits start := by
  induction digits generalizing start with
  | nil => simp
  | cons c rest ih =>
      rw [Nat.ofDigitChars_cons]
      exact Nat.le_trans (by omega) (ih _)

theorem readDigits_cons_of_isDigit {bound start : Nat} {overflow : IntegerFault} {c : Char}
    (digit : c.isDigit) (rest : List Char) :
    readDigits bound overflow start (c :: rest) =
      if 10 * start + (c.toNat - '0'.toNat) ≤ bound then
        readDigits bound overflow (10 * start + (c.toNat - '0'.toNat)) rest
      else .error overflow := by
  rw [readDigits, if_pos (isDecimal_of_isDigit digit), digitValue_of_isDigit digit,
    Nat.mul_comm start 10]

/-- Digits are read as the number they write, if the number stays within the bound. -/
theorem readDigits_of_fits {bound : Nat} {overflow : IntegerFault} {digits : List Char}
    {start : Nat} (digital : ∀ c ∈ digits, c.isDigit)
    (fits : Nat.ofDigitChars 10 digits start ≤ bound) :
    readDigits bound overflow start digits = .ok (Nat.ofDigitChars 10 digits start) := by
  induction digits generalizing start with
  | nil => simp [readDigits]
  | cons c rest ih =>
      have digit : c.isDigit := digital c List.mem_cons_self
      rw [Nat.ofDigitChars_cons] at fits ⊢
      have small := Nat.le_trans (le_ofDigitChars rest _) fits
      rw [readDigits_cons_of_isDigit digit, if_pos small]
      exact ih (fun other member => digital other (List.mem_cons_of_mem _ member)) fits

theorem readMagnitude_toDigits {bound n : Nat} (overflow : IntegerFault) (fits : n ≤ bound) :
    readMagnitude bound overflow (Nat.toDigits 10 n) = .ok n := by
  have digital : ∀ c ∈ Nat.toDigits 10 n, c.isDigit := fun c member =>
    Nat.isDigit_of_mem_toDigits (by decide) (by decide) member
  have written : Nat.ofDigitChars 10 (Nat.toDigits 10 n) 0 = n := Nat.ofDigitChars_ten_toDigits
  have nonempty : (Nat.toDigits 10 n).isEmpty = false := by
    rw [List.isEmpty_eq_false_iff]
    exact Nat.toDigits_ne_nil
  rw [readMagnitude, nonempty]
  simp only [Bool.false_eq_true, if_false]
  rw [readDigits_of_fits digital (by rwa [written]), written]

/-- A numeral that starts with a digit is read without a sign. -/
theorem readInteger_of_isDigit {kind : IntegerKind} {digits : List Char}
    (nonempty : digits ≠ []) (digital : ∀ c ∈ digits, c.isDigit) :
    readInteger kind digits =
      (readMagnitude kind.greatest.toNat .tooLarge digits).map fun value => (value : Int) := by
  cases digits with
  | nil => exact absurd rfl nonempty
  | cons c rest =>
      have digit : c.isDigit := digital c List.mem_cons_self
      have notPlus : c ≠ '+' := by
        intro plus
        subst plus
        cases digit
      have notMinus : c ≠ '-' := by
        intro minus
        subst minus
        cases digit
      unfold readInteger
      split
      · simp_all
      · simp_all
      · simp_all
      · cases readMagnitude kind.greatest.toNat .tooLarge (c :: rest) <;> rfl

theorem parseInteger_natText {kind : IntegerKind} {n : Nat} (fits : (n : Int) ≤ kind.greatest) :
    parseInteger kind (natText n) = .ok (n : Int) := by
  have bound : n ≤ kind.greatest.toNat := by omega
  rw [parseInteger, natText, String.toList_ofList,
    readInteger_of_isDigit Nat.toDigits_ne_nil fun c member =>
      Nat.isDigit_of_mem_toDigits (by decide) (by decide) member,
    readMagnitude_toDigits _ bound]
  rfl

/-- The numeral of an integer is read as that integer by every kind that holds it. -/
theorem parseInteger_integerText {kind : IntegerKind} {value : Int} (held : kind.holds value) :
    parseInteger kind (integerText value) = .ok value := by
  simp only [IntegerKind.holds, Bool.and_eq_true, decide_eq_true_eq] at held
  obtain ⟨atLeast, atMost⟩ := held
  by_cases negative : value < 0
  · have signed : kind.isSigned = true := by
      simp only [IntegerKind.isSigned, decide_eq_true_eq]
      omega
    have bound : value.natAbs ≤ kind.least.natAbs := by omega
    have written : (integerText value).toList = '-' :: Nat.toDigits 10 value.natAbs := by
      simp [integerText, negative, natText]
    rw [parseInteger, written, readInteger, if_pos signed, readMagnitude_toDigits _ bound]
    have restored : -(value.natAbs : Int) = value := by omega
    exact congrArg Except.ok restored
  · have restored : (value.natAbs : Int) = value := by omega
    rw [integerText, if_neg negative, parseInteger_natText (by omega), restored]

end PadCapture.Numeral
