import PadCapture.Params.Typed
import PadCapture.Proofs.Numeral.Grammar

/-!
# Looking up stored values

A value is found under the name it was stored under, and storing it leaves all other
names alone.  A stored text that is readable is read without falling back to the
default, and only such a text is.
-/

namespace PadCapture

variable {α : Type}

theorem lookup_insertSorted_self (key : String) (value : α) (entries : List (String × α)) :
    (insertSorted key value entries).lookup key = some value := by
  induction entries with
  | nil => simp [insertSorted]
  | cons entry rest ih =>
      rw [insertSorted]
      split
      · simp
      · split
        · simp
        · rename_i different
          have missed : (key == entry.1) = false := by simpa using different
          rw [List.lookup_cons, missed]
          exact ih

theorem lookup_insertSorted_of_ne {key other : String} (different : other ≠ key) (value : α)
    (entries : List (String × α)) :
    (insertSorted key value entries).lookup other = entries.lookup other := by
  have missed : (other == key) = false := by simpa using different
  induction entries with
  | nil => simp [insertSorted, List.lookup_cons, missed]
  | cons entry rest ih =>
      rw [insertSorted]
      split
      · rw [List.lookup_cons, missed]
      · split
        · rename_i same
          rw [List.lookup_cons, List.lookup_cons, ← same, missed]
        · rw [List.lookup_cons, List.lookup_cons, ih]

/-- Among the entries that are inserted one after another, the last one of a key is found. -/
theorem lookup_foldl_insertSorted (key : String) (rest sorted : List (String × α)) :
    (rest.foldl (fun sorted entry => insertSorted entry.1 entry.2 sorted) sorted).lookup key =
      (rest.reverse.lookup key).or (sorted.lookup key) := by
  induction rest generalizing sorted with
  | nil => simp
  | cons entry rest ih =>
      obtain ⟨name, value⟩ := entry
      rw [List.foldl_cons, ih, List.reverse_cons, List.lookup_append, Option.or_assoc]
      congr 1
      by_cases same : key = name
      · subst same
        simp [lookup_insertSorted_self]
      · have missed : (key == name) = false := by simpa using same
        simp [lookup_insertSorted_of_ne same, List.lookup_cons, missed]

theorem lookup_sortEntries (key : String) (entries : List (String × α)) :
    (sortEntries entries).lookup key = entries.reverse.lookup key := by
  rw [sortEntries, lookup_foldl_insertSorted]
  simp

namespace Params

@[simp] theorem get?_empty (key : String) : empty.get? key = none := rfl

@[simp] theorem get?_set_self (params : Params) (key value : String) :
    (params.set key value).get? key = some value :=
  lookup_insertSorted_self key value params.entries

theorem get?_set_of_ne (params : Params) {key other : String} (different : other ≠ key)
    (value : String) : (params.set key value).get? other = params.get? other :=
  lookup_insertSorted_of_ne different value params.entries

theorem has_set_of_ne (params : Params) {key other : String} (different : other ≠ key)
    (value : String) : (params.set key value).has other = params.has other := by
  rw [has, has, get?_set_of_ne params different]

theorem lookup_congr {params others : Params} {key : String}
    (same : others.get? key = params.get? key) (read : String → Except ValueFault α)
    (default : α) : others.lookup read key default = params.lookup read key default := by
  rw [lookup, lookup, same]

theorem lookup_set_of_ne (params : Params) {key other : String} (different : other ≠ key)
    (value : String) (read : String → Except ValueFault α) (default : α) :
    (params.set key value).lookup read other default = params.lookup read other default :=
  lookup_congr (get?_set_of_ne params different value) read default

/-- A later pair replaces an earlier one of the same key. -/
theorem get?_ofList_eq_some_iff {pairs : List (String × String)} {key value : String} :
    (ofList pairs).get? key = some value ↔
      ∃ earlier later, pairs = earlier ++ (key, value) :: later ∧ ∀ pair ∈ later, pair.1 ≠ key := by
  have found : (ofList pairs).get? key = pairs.reverse.lookup key := lookup_sortEntries key pairs
  rw [found, List.lookup_eq_some_iff]
  constructor
  · rintro ⟨after, before, split, others⟩
    refine ⟨before.reverse, after.reverse, ?_, ?_⟩
    · rw [← List.reverse_reverse pairs, split]
      simp
    · intro pair member
      exact Ne.symm (bne_iff_ne.mp (others pair (List.mem_reverse.mp member)))
  · rintro ⟨earlier, later, rfl, others⟩
    refine ⟨later.reverse, earlier.reverse, by simp, ?_⟩
    intro pair member
    exact bne_iff_ne.mpr (others pair (List.mem_reverse.mp member)).symm

theorem value_lookup_of_missing {params : Params} {read : String → Except ValueFault α}
    {key : String} (missing : params.get? key = none) (default : α) :
    (params.lookup read key default).value = default := by
  unfold lookup
  rw [missing]
  rfl

theorem value_lookup_of_read {params : Params} {read : String → Except ValueFault α}
    {key raw : String} {value : α} (stored : params.get? key = some raw)
    (readable : read raw = .ok value) (default : α) :
    (params.lookup read key default).value = value := by
  unfold lookup
  simp [stored, readable]

/-- A stored numeral is read by every kind that reaches up to it. -/
theorem value_integer_of_natText {params : Params} {kind : Numeral.IntegerKind} {key : String}
    {n : Nat} (stored : params.get? key = some (Numeral.natText n))
    (fits : (n : Int) ≤ kind.greatest) (default : Int) :
    (params.integer kind key default).value = n := by
  apply value_lookup_of_read stored
  rw [readInteger, Numeral.parseInteger_natText fits]
  rfl

theorem value_lookup_of_unreadable {params : Params} {read : String → Except ValueFault α}
    {key raw : String} {fault : ValueFault} (stored : params.get? key = some raw)
    (unreadable : read raw = .error fault) (default : α) :
    (params.lookup read key default).value = default := by
  unfold lookup
  simp [stored, unreadable]

theorem value_single_of_parse {params : Params} {key raw : String} {value : Single}
    (stored : params.get? key = some raw) (readable : Floating.parse raw = .ok value)
    (default : Single) : (params.single key default).value = value := by
  apply value_lookup_of_read stored
  rw [readSingle, readable]
  rfl

section Stored

variable (params : Params) {kind : Numeral.IntegerKind} {key : String}

/-- The text under the key is a numeral of the kind for the integer. -/
def Stores (kind : Numeral.IntegerKind) (key : String) (value : Int) : Prop :=
  ∃ raw, params.get? key = some raw ∧ Numeral.IsNumeral kind raw value

/-- The value is stored, or it is the default because no value is. -/
inductive StoredOr (stores : α → Prop) (default : α) : α → Prop where
  | stored (value : α) (held : stores value) : StoredOr stores default value
  | default (missing : ∀ value, ¬ stores value) : StoredOr stores default default

variable {params}

theorem Stores.unique (zero : kind.holds 0 = true) {first second : Int}
    (firstStored : params.Stores kind key first) (secondStored : params.Stores kind key second) :
    first = second := by
  obtain ⟨raw, rawAt, firstNumeral⟩ := firstStored
  obtain ⟨other, otherAt, secondNumeral⟩ := secondStored
  have same : raw = other := Option.some.inj (rawAt.symm.trans otherAt)
  exact firstNumeral.unique zero (same ▸ secondNumeral)

/-- A look-up gives the stored integer, or the default if none is stored. -/
theorem storedOr_integer (zero : kind.holds 0 = true) (params : Params) (key : String)
    (default : Int) :
    StoredOr (params.Stores kind key) default (params.integer kind key default).value := by
  rw [integer]
  cases stored : params.get? key with
  | none =>
      rw [value_lookup_of_missing stored]
      apply StoredOr.default
      rintro value ⟨raw, rawAt, _⟩
      rw [stored] at rawAt
      cases rawAt
  | some raw =>
      cases read : Numeral.parseInteger kind raw with
      | ok value =>
          have readable : readInteger kind raw = .ok value := by rw [readInteger, read]; rfl
          rw [value_lookup_of_read stored readable]
          exact .stored value ⟨raw, stored, (Numeral.parseInteger_eq_ok_iff zero).mp read⟩
      | error fault =>
          have unreadable : readInteger kind raw = .error (.integer fault) := by
            rw [readInteger, read]; rfl
          rw [value_lookup_of_unreadable stored unreadable]
          apply StoredOr.default
          rintro value ⟨other, otherAt, numeral⟩
          have same : raw = other := Option.some.inj (stored.symm.trans otherAt)
          rw [same, (Numeral.parseInteger_eq_ok_iff zero).mpr numeral] at read
          cases read

/-- A value that goes by a number is stored where its number is.  A stored number that no
value goes by counts as none. -/
theorem StoredOr.ofNumber {stores : Int → Prop} {ofNumber? : Int → Option α} {toNumber : α → Int}
    (unique : ∀ {first second}, stores first → stores second → first = second)
    (inverse : ∀ number value, ofNumber? number = some value ↔ toNumber value = number)
    {defaultNumber number : Int} {default : α} (known : ofNumber? defaultNumber = some default)
    (found : StoredOr stores defaultNumber number) :
    StoredOr (fun value => stores (toNumber value)) default
      ((ofNumber? number).getD default) := by
  cases found with
  | stored _ held =>
      cases named : ofNumber? number with
      | some value =>
          have same := (inverse number value).mp named
          exact .stored value (same ▸ held)
      | none =>
          apply StoredOr.default
          intro value otherHeld
          have same := unique otherHeld held
          rw [(inverse number value).mpr same] at named
          cases named
  | default missing =>
      rw [known]
      exact .default fun value => missing (toNumber value)

end Stored

end Params

end PadCapture
