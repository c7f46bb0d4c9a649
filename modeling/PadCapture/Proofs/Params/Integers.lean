import PadCapture.Proofs.Params.Lookup
import PadCapture.Proofs.Params.RoundTrip

/-!
# Stored integers

An integer that is stored is read back by every kind of integers that holds it.  Every other
kind reads its default, even where the digits alone would fit.  The other names of the set
read as before, and none of this changes when the set is written as text and read again.
-/

namespace PadCapture.Params

open Numeral

variable {before after : Params} {key : String} {value : Int}

/-- The kinds of integers that parameters are read as. -/
def kinds : List IntegerKind := [.int64, .int32, .nat16, .nat8, .nat64]

/-- After the integer is stored under the key, its own kinds read it and the others their
default, and whatever is read under another name is as it was. -/
structure Keeps (before after : Params) (key : String) (value : Int) : Prop where
  number : ∀ kind ∈ kinds, ∀ default,
    (after.integer kind key default).value = if kind.holds value then value else default
  others : ∀ other, other ≠ key → after.get? other = before.get? other ∧
    ∀ {α : Type} (read : String → Except ValueFault α) (default : α),
      after.lookup read other default = before.lookup read other default

theorem holds_zero_of_mem_kinds {kind : IntegerKind} (member : kind ∈ kinds) :
    kind.holds 0 = true := by
  revert member kind
  decide

/-- A stored numeral is read just by the kinds that hold its integer. -/
theorem value_integer_of_integerText {kind : IntegerKind} (zero : kind.holds 0 = true)
    (stored : after.get? key = some (integerText value)) (default : Int) :
    (after.integer kind key default).value = if kind.holds value then value else default := by
  have read := storedOr_integer zero after key default
  generalize (after.integer kind key default).value = found at read ⊢
  cases read with
  | stored _ held =>
      obtain ⟨raw, rawAt, numeral⟩ := held
      obtain rfl : integerText value = raw := Option.some.inj (stored.symm.trans rawAt)
      obtain ⟨rfl, held⟩ :=
        (parseInteger_integerText_iff zero).mp ((parseInteger_eq_ok_iff zero).mpr numeral)
      rw [if_pos held]
  | default missing =>
      rw [if_neg]
      intro held
      apply missing value
      exact ⟨_, stored, (parseInteger_eq_ok_iff zero).mp (parseInteger_integerText held)⟩

theorem keeps_setInteger (params : Params) (key : String) (value : Int) :
    Keeps params (params.setInteger key value) key value where
  number := fun _ member =>
    value_integer_of_integerText (holds_zero_of_mem_kinds member) (get?_set_self params key _)
  others := fun _ different =>
    ⟨get?_set_of_ne params different _, lookup_set_of_ne params different _⟩

/-- An integer survives being stored, also when the set is printed and read back.  A kind that
holds it reads it, a kind that does not reads its default, and every other name reads as before
as a value of any type. -/
theorem stored_integer_survives (params : Params) (key : String) (value : Int) :
    Keeps params (params.setInteger key value) key value ∧
      ∃ restored, parse (params.setInteger key value).text = .ok restored ∧
        Keeps params restored key value := by
  have keeps := keeps_setInteger params key value
  exact ⟨keeps, params.setInteger key value, parse_entriesText _, keeps⟩

-- One past the greatest is read by the wider kind only.
example :
    let stored := empty.setInteger "button" 65536
    (stored.integer .nat16 "button" 7).value = 7 ∧
      (stored.integer .int32 "button" 7).value = 65536 := by
  decide

end PadCapture.Params
