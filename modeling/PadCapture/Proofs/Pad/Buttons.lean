import PadCapture.Pad.State

/-!
# Buttons as single bits

Every button is one bit of the mask, so a mask contains a button just when it has that
bit.  The buttons in order of priority are all the known ones: a mask has a first
button just when some known bit is set.
-/

namespace PadCapture.Buttons

/-- The mask with a single bit. -/
def bit (place : Nat) : Buttons := ⟨⟨BitVec.twoPow 16 place⟩⟩

/-- The places of the buttons in order of priority. -/
def places : List Nat := [8, 9, 10, 11, 2, 0, 1, 3, 6, 5, 4, 12]

theorem priority_eq_places : priority = places.map bit := by
  decide

theorem getLsbD_every_iff {place : Nat} (inside : place < 16) :
    every.mask.toBitVec.getLsbD place = true ↔ place ∈ places := by
  revert place
  decide

theorem lt_of_mem_places {place : Nat} (member : place ∈ places) : place < 16 := by
  revert member place
  decide

theorem contains_bit (buttons : Buttons) {place : Nat} (inside : place < 16) :
    buttons.contains (bit place) = true ↔ buttons.mask.toBitVec.getLsbD place = true := by
  have apart : (0#16 : BitVec 16) ≠ BitVec.twoPow 16 place := by
    intro same
    have atPlace := congrArg (fun bits => bits.getLsbD place) same
    simp [inside] at atPlace
  have anded : (buttons.mask &&& (bit place).mask).toBitVec =
      if buttons.mask.toBitVec.getLsbD place then BitVec.twoPow 16 place else 0#16 := by
    rw [UInt16.toBitVec_and]
    exact BitVec.and_twoPow _ _
  rw [contains, beq_iff_eq, ← UInt16.toBitVec_inj, anded]
  cases buttons.mask.toBitVec.getLsbD place with
  | true => simp [bit]
  | false => simpa [bit] using apart

theorem known_eq_zero_iff (buttons : Buttons) :
    buttons.known.mask = 0 ↔
      ∀ place ∈ places, buttons.mask.toBitVec.getLsbD place = false := by
  have knownBit : ∀ place, buttons.known.mask.toBitVec.getLsbD place =
      (buttons.mask.toBitVec.getLsbD place && every.mask.toBitVec.getLsbD place) := by
    intro place
    rw [known, UInt16.toBitVec_and, BitVec.getLsbD_and]
  constructor
  · intro blank place member
    have cleared := knownBit place
    rw [blank, (getLsbD_every_iff (lt_of_mem_places member)).mpr member] at cleared
    simpa using cleared.symm
  · intro clear
    apply UInt16.toBitVec_inj.mp
    apply BitVec.eq_of_getLsbD_eq
    intro place inside
    rw [knownBit]
    cases shown : every.mask.toBitVec.getLsbD place with
    | false => simp
    | true => simp [clear place ((getLsbD_every_iff inside).mp shown)]

/-- A mask has a first button just when a known bit is set. -/
theorem first?_eq_none_iff (buttons : Buttons) :
    buttons.first? = none ↔ buttons.known.mask = 0 := by
  rw [first?, List.find?_eq_none, known_eq_zero_iff, priority_eq_places]
  constructor
  · intro missing place member
    have missed := missing (bit place) (List.mem_map_of_mem member)
    rw [contains_bit buttons (lt_of_mem_places member)] at missed
    simpa using missed
  · intro clear button member
    obtain ⟨place, placed, rfl⟩ := List.mem_map.mp member
    rw [contains_bit buttons (lt_of_mem_places placed), clear place placed]
    decide

/-- The button is pressed, and none of the buttons of higher priority is. -/
def IsFirst (buttons button : Buttons) : Prop :=
  ∃ higher lower, priority = higher ++ button :: lower ∧ buttons.contains button = true ∧
    ∀ other ∈ higher, buttons.contains other = false

theorem first?_eq_some_iff {buttons button : Buttons} :
    buttons.first? = some button ↔ buttons.IsFirst button := by
  rw [first?, List.find?_eq_some_iff_append]
  constructor
  · rintro ⟨pressed, higher, lower, split, before⟩
    exact ⟨higher, lower, split, pressed, fun other member => by simpa using before other member⟩
  · rintro ⟨higher, lower, split, pressed, before⟩
    exact ⟨pressed, higher, lower, split, fun other member => by simp [before other member]⟩

theorem known_of_mem_priority {button : Buttons} (member : button ∈ priority) :
    button.known = button := by
  revert member button
  decide

theorem isEmpty_of_mem_priority {button : Buttons} (member : button ∈ priority) :
    button.isEmpty = false := by
  revert member button
  decide

/-- The first button is one of the known ones. -/
theorem mem_priority_of_first? {buttons button : Buttons}
    (first : buttons.first? = some button) : button ∈ priority :=
  List.mem_of_find?_eq_some first

theorem exists_place_of_mem_priority {button : Buttons} (member : button ∈ priority) :
    ∃ place < 16, button = bit place := by
  rw [priority_eq_places] at member
  obtain ⟨place, placed, rfl⟩ := List.mem_map.mp member
  exact ⟨place, lt_of_mem_places placed, rfl⟩

theorem getLsbD_bit {place : Nat} (other : Nat) (inside : place < 16) :
    (bit place).mask.toBitVec.getLsbD other = decide (place = other) := by
  simp [bit, BitVec.getLsbD_twoPow, inside]

theorem bit_inj {place other : Nat} (inside : place < 16) :
    bit place = bit other ↔ place = other := by
  constructor
  · intro same
    have atPlace := getLsbD_bit place inside
    rw [same] at atPlace
    simpa [bit, BitVec.getLsbD_twoPow, inside, eq_comm] using atPlace
  · rintro rfl
    rfl

variable (buttons : Buttons) {button other : Buttons}

/-- Pressing a button adds this one and no other. -/
theorem contains_union (member : button ∈ priority) (otherMember : other ∈ priority) :
    (buttons.union other).contains button = true ↔
      button = other ∨ buttons.contains button = true := by
  obtain ⟨place, inside, rfl⟩ := exists_place_of_mem_priority member
  obtain ⟨otherPlace, otherInside, rfl⟩ := exists_place_of_mem_priority otherMember
  have united : (buttons.union (bit otherPlace)).mask.toBitVec.getLsbD place =
      (buttons.mask.toBitVec.getLsbD place || decide (otherPlace = place)) := by
    rw [union, UInt16.toBitVec_or, BitVec.getLsbD_or, getLsbD_bit place otherInside]
  rw [contains_bit _ inside, contains_bit _ inside, united, bit_inj inside, Bool.or_eq_true,
    decide_eq_true_iff, or_comm, eq_comm]

/-- Releasing a button takes away this one and no other. -/
theorem contains_without (member : button ∈ priority) (otherMember : other ∈ priority) :
    (buttons.without other).contains button = true ↔
      button ≠ other ∧ buttons.contains button = true := by
  obtain ⟨place, inside, rfl⟩ := exists_place_of_mem_priority member
  obtain ⟨otherPlace, otherInside, rfl⟩ := exists_place_of_mem_priority otherMember
  have remaining : (buttons.without (bit otherPlace)).mask.toBitVec.getLsbD place =
      (buttons.mask.toBitVec.getLsbD place && !decide (otherPlace = place)) := by
    rw [without, UInt16.toBitVec_and, UInt16.toBitVec_not, BitVec.getLsbD_and,
      BitVec.getLsbD_not, getLsbD_bit place otherInside]
    simp [inside]
  rw [contains_bit _ inside, contains_bit _ inside, remaining, Ne, bit_inj inside,
    Bool.and_eq_true, and_comm, Bool.not_eq_true', decide_eq_false_iff_not, eq_comm]

theorem known_union (known : buttons.known = buttons) (otherMember : other ∈ priority) :
    (buttons.union other).known = buttons.union other := by
  have mask : buttons.mask &&& every.mask = buttons.mask := congrArg Buttons.mask known
  have otherMask : other.mask &&& every.mask = other.mask :=
    congrArg Buttons.mask (known_of_mem_priority otherMember)
  have spread : (buttons.mask ||| other.mask) &&& every.mask =
      (buttons.mask &&& every.mask) ||| (other.mask &&& every.mask) := by
    apply UInt16.toBitVec_inj.mp
    simp only [UInt16.toBitVec_and, UInt16.toBitVec_or]
    exact BitVec.and_or_distrib_right
  rw [Buttons.known, union, spread, mask, otherMask]

theorem known_without (known : buttons.known = buttons) :
    (buttons.without other).known = buttons.without other := by
  have mask : buttons.mask &&& every.mask = buttons.mask := congrArg Buttons.mask known
  rw [Buttons.known, without, UInt16.and_assoc, UInt16.and_comm (~~~other.mask),
    ← UInt16.and_assoc, mask]

end PadCapture.Buttons
