import PadCapture.Proofs.Numeral.Decimal

/-!
# The grammar of integer numerals

Reading goes from left to right and stops at the first digit that carries the value out of
range.  Since a value never shrinks again, the numerals that are read are exactly those of
the grammar: at least one decimal digit after at most one sign, for an integer of the kind.
-/

namespace PadCapture.Numeral

/-- The row of digits writes the number. -/
structure IsRow (digits : List Char) (n : Nat) : Prop where
  nonempty : digits ≠ []
  digital : ∀ c ∈ digits, c.isDigit
  value : Nat.ofDigitChars 10 digits 0 = n

/-- The characters write the integer.  A kind without negative members takes no minus sign,
not even before a zero. -/
inductive Writes (kind : IntegerKind) : List Char → Int → Prop where
  | bare {digits : List Char} {n : Nat} (row : IsRow digits n) : Writes kind digits n
  | plus {digits : List Char} {n : Nat} (row : IsRow digits n) : Writes kind ('+' :: digits) n
  | minus {digits : List Char} {n : Nat} (signed : kind.isSigned = true) (row : IsRow digits n) :
      Writes kind ('-' :: digits) (-n)

/-- The text is a numeral of the kind for the integer. -/
def IsNumeral (kind : IntegerKind) (text : String) (value : Int) : Prop :=
  Writes kind text.toList value ∧ kind.holds value = true

section Digits

variable {bound start n : Nat} {overflow : IntegerFault} {digits : List Char}

theorem isDecimal_eq_isDigit (c : Char) : isDecimal c = c.isDigit := by
  rw [Bool.eq_iff_iff, isDecimal, Char.isDigit]
  simp only [Bool.and_eq_true, decide_eq_true_eq]
  exact Iff.rfl

/-- What is read are digits, and the number they write stays within the bound. -/
theorem fits_of_readDigits (within : start ≤ bound)
    (read : readDigits bound overflow start digits = .ok n) :
    (∀ c ∈ digits, c.isDigit) ∧ Nat.ofDigitChars 10 digits start = n ∧ n ≤ bound := by
  induction digits generalizing start with
  | nil =>
      cases read
      exact ⟨fun c member => absurd member List.not_mem_nil, by simp, within⟩
  | cons c rest ih =>
      by_cases digit : c.isDigit
      · rw [readDigits_cons_of_isDigit digit] at read
        split at read
        · rename_i small
          obtain ⟨digital, value, fits⟩ := ih small read
          refine ⟨?_, by rw [Nat.ofDigitChars_cons, value], fits⟩
          exact List.forall_mem_cons.mpr ⟨digit, digital⟩
        · cases read
      · rw [readDigits, isDecimal_eq_isDigit, if_neg digit] at read
        cases read

theorem readMagnitude_eq_ok_iff :
    readMagnitude bound overflow digits = .ok n ↔ IsRow digits n ∧ n ≤ bound := by
  constructor
  · intro read
    unfold readMagnitude at read
    split at read
    · cases read
    · rename_i nonempty
      obtain ⟨digital, value, fits⟩ := fits_of_readDigits (Nat.zero_le bound) read
      exact ⟨⟨by simpa using nonempty, digital, value⟩, fits⟩
  · rintro ⟨⟨nonempty, digital, rfl⟩, fits⟩
    rw [readMagnitude, if_neg (by simpa using nonempty)]
    exact readDigits_of_fits digital fits

end Digits

section Integers

variable {kind : IntegerKind} {value : Int} {n : Nat}

theorem le_greatest_iff (zero : kind.holds 0 = true) :
    n ≤ kind.greatest.toNat ↔ kind.holds n = true := by
  simp only [IntegerKind.holds, Bool.and_eq_true, decide_eq_true_eq] at zero ⊢
  omega

theorem le_least_iff (zero : kind.holds 0 = true) :
    n ≤ kind.least.natAbs ↔ kind.holds (-n) = true := by
  simp only [IntegerKind.holds, Bool.and_eq_true, decide_eq_true_eq] at zero ⊢
  omega

/-- A magnitude is read after a sign or after none, and the sign is put to it at the end. -/
theorem bind_readMagnitude_eq_ok_iff {bound : Nat} {overflow : IntegerFault}
    {digits : List Char} (ofMagnitude : Nat → Int) :
    (readMagnitude bound overflow digits >>= fun n => pure (ofMagnitude n)) = .ok value ↔
      ∃ n, IsRow digits n ∧ n ≤ bound ∧ ofMagnitude n = value := by
  constructor
  · intro read
    cases magnitude : readMagnitude bound overflow digits with
    | error fault =>
        rw [magnitude] at read
        cases read
    | ok n =>
        rw [magnitude] at read
        obtain ⟨row, fits⟩ := readMagnitude_eq_ok_iff.mp magnitude
        exact ⟨n, row, fits, Except.ok.inj read⟩
  · rintro ⟨n, row, fits, rfl⟩
    rw [readMagnitude_eq_ok_iff.mpr ⟨row, fits⟩]
    rfl

theorem writes_of_readInteger (zero : kind.holds 0 = true) {chars : List Char}
    (read : readInteger kind chars = .ok value) :
    Writes kind chars value ∧ kind.holds value = true := by
  unfold readInteger at read
  split at read
  · cases read
  · obtain ⟨n, row, fits, rfl⟩ := (bind_readMagnitude_eq_ok_iff _).mp read
    exact ⟨.plus row, (le_greatest_iff zero).mp fits⟩
  · split at read
    · rename_i signed
      obtain ⟨n, row, fits, rfl⟩ := (bind_readMagnitude_eq_ok_iff _).mp read
      exact ⟨.minus signed row, (le_least_iff zero).mp fits⟩
    · cases read
  · obtain ⟨n, row, fits, rfl⟩ := (bind_readMagnitude_eq_ok_iff _).mp read
    exact ⟨.bare row, (le_greatest_iff zero).mp fits⟩

theorem readInteger_of_writes (zero : kind.holds 0 = true) {chars : List Char}
    (writes : Writes kind chars value) (held : kind.holds value = true) :
    readInteger kind chars = .ok value := by
  cases writes with
  | bare row =>
      rw [readInteger_of_isDigit row.nonempty row.digital,
        readMagnitude_eq_ok_iff.mpr ⟨row, (le_greatest_iff zero).mpr held⟩]
      rfl
  | plus row =>
      exact (bind_readMagnitude_eq_ok_iff _).mpr ⟨_, row, (le_greatest_iff zero).mpr held, rfl⟩
  | minus signed row =>
      rw [readInteger, if_pos signed]
      exact (bind_readMagnitude_eq_ok_iff _).mpr ⟨_, row, (le_least_iff zero).mpr held, rfl⟩

/-- A text is read as an integer of the kind exactly when it is a numeral for it. -/
theorem parseInteger_eq_ok_iff (zero : kind.holds 0 = true) {text : String} :
    parseInteger kind text = .ok value ↔ IsNumeral kind text value := by
  constructor
  · exact writes_of_readInteger zero
  · rintro ⟨writes, held⟩
    exact readInteger_of_writes zero writes held

theorem IsNumeral.unique (zero : kind.holds 0 = true) {text : String} {first second : Int}
    (firstNumeral : IsNumeral kind text first) (secondNumeral : IsNumeral kind text second) :
    first = second := by
  have read := (parseInteger_eq_ok_iff zero).mpr firstNumeral
  rw [(parseInteger_eq_ok_iff zero).mpr secondNumeral] at read
  exact (Except.ok.inj read).symm

end Integers

section Written

variable {kind : IntegerKind} {value other : Int}

theorem isRow_toDigits (n : Nat) : IsRow (Nat.toDigits 10 n) n where
  nonempty := Nat.toDigits_ne_nil
  digital := fun _ member => Nat.isDigit_of_mem_toDigits (by decide) (by decide) member
  value := Nat.ofDigitChars_ten_toDigits

theorem IsRow.isDigit_head {c : Char} {digits : List Char} {n : Nat}
    (row : IsRow (c :: digits) n) : c.isDigit :=
  row.digital c List.mem_cons_self

/-- The decimal numeral of an integer writes no other integer. -/
theorem eq_of_writes_integerText (writes : Writes kind (integerText value).toList other) :
    other = value := by
  generalize written : (integerText value).toList = chars at writes
  by_cases negative : value < 0
  · have signed : '-' :: Nat.toDigits 10 value.natAbs = chars := by
      rw [← written]
      simp [integerText, negative, natText]
    cases writes with
    | bare row => exact absurd (signed ▸ row).isDigit_head (by decide)
    | plus row => cases (List.cons.inj signed).1
    | minus _ row =>
        have number := row.value.symm.trans
          ((List.cons.inj signed).2 ▸ (isRow_toDigits value.natAbs).value)
        omega
  · have unsigned : Nat.toDigits 10 value.natAbs = chars := by
      rw [← written]
      simp [integerText, negative, natText]
    have row := isRow_toDigits value.natAbs
    rw [unsigned] at row
    cases writes with
    | bare otherRow =>
        have number := otherRow.value.symm.trans row.value
        omega
    | plus => exact absurd row.isDigit_head (by decide)
    | minus => exact absurd row.isDigit_head (by decide)

/-- The decimal numeral of an integer is read by the kinds that hold the integer, and by no
other. -/
theorem parseInteger_integerText_iff (zero : kind.holds 0 = true) :
    parseInteger kind (integerText value) = .ok other ↔
      other = value ∧ kind.holds value = true := by
  constructor
  · intro read
    obtain ⟨writes, held⟩ := (parseInteger_eq_ok_iff zero).mp read
    obtain rfl := eq_of_writes_integerText writes
    exact ⟨rfl, held⟩
  · rintro ⟨rfl, held⟩
    exact parseInteger_integerText held

end Written

end PadCapture.Numeral
