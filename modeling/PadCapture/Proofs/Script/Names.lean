import PadCapture.Proofs.Pad.Axes
import PadCapture.Proofs.Pad.Buttons
import PadCapture.Script.Compile
import Mathlib.Data.List.Basic

/-!
# Names in scripts

Names of buttons may be written in letters of any case, names of axes only in one way.  A list of
names is compiled just when all its names are known, and otherwise the first unknown one is
reported.
-/

namespace PadCapture

namespace Text

variable {text other : String}

/-- The characters of a text with its ASCII letters in upper case. -/
def capitals (text : String) : List Char := text.toList.map Char.toUpper

/-- The characters of a text, whatever the case of its ASCII letters. -/
def letters (text : String) : List Char := text.toList.map Char.toLower

theorem uppercase_eq_iff : uppercase text = other ↔ capitals text = other.toList := by
  rw [uppercase, capitals, ← String.toList_inj, String.toList_ofList]

theorem toUpper_toLower (c : Char) : c.toLower.toUpper = c.toUpper := by
  by_cases upper : c.val ≥ 'A'.val ∧ c.val ≤ 'Z'.val
  · have letters : ∀ place < 26,
        (Char.ofNat (65 + place)).toLower.toUpper = (Char.ofNat (65 + place)).toUpper := by decide
    have low : 65 ≤ c.toNat := UInt32.le_iff_toNat_le.mp upper.1
    have high : c.toNat ≤ 90 := UInt32.le_iff_toNat_le.mp upper.2
    have letter := letters (c.toNat - 65) (by omega)
    rwa [Nat.add_sub_cancel' low, Char.ofNat_toNat] at letter
  · have kept : c.toLower = c := dif_neg upper
    rw [kept]

theorem capitals_eq_of_letters_eq (same : letters other = letters text) :
    capitals other = capitals text := by
  have upper : ∀ text, capitals text = (letters text).map Char.toUpper := by
    intro text
    rw [capitals, letters, List.map_map]
    exact List.map_congr_left fun c _ => (toUpper_toLower c).symm
  rw [upper, upper, same]

end Text

namespace Buttons

theorem eq_of_bits {buttons other : Buttons}
    (same : ∀ place, buttons.mask.toBitVec.getLsbD place = other.mask.toBitVec.getLsbD place) :
    buttons = other := by
  have sameMask : buttons.mask = other.mask :=
    UInt16.toBitVec_inj.mp (BitVec.eq_of_getLsbD_eq fun place _ => same place)
  cases buttons
  cases other
  simp_all

theorem getLsbD_union (buttons other : Buttons) (place : Nat) :
    (buttons.union other).mask.toBitVec.getLsbD place =
      (buttons.mask.toBitVec.getLsbD place || other.mask.toBitVec.getLsbD place) := by
  rw [union, UInt16.toBitVec_or, BitVec.getLsbD_or]

theorem ofName?_eq_some_iff {name : String} {button : Buttons} :
    ofName? name = some button ↔ (name, button) ∈ named := by
  constructor
  · intro found
    obtain ⟨before, after, split, -⟩ := List.lookup_eq_some_iff.mp found
    rw [split]
    exact List.mem_append_right _ List.mem_cons_self
  · intro member
    have listed : ∀ entry ∈ named, ofName? entry.1 = some entry.2 := by decide
    exact listed _ member

end Buttons

namespace Script

section FirstBad

variable {α : Type} {good : α → Prop} {first item : α} {rest earlier : List α}

/-- The item comes right after `earlier` and is the first one that is not good. -/
def IsFirstBad (good : α → Prop) (items earlier : List α) (item : α) : Prop :=
  ∃ later, items = earlier ++ item :: later ∧ (∀ other ∈ earlier, good other) ∧ ¬ good item

theorem not_isFirstBad_nil : ¬ IsFirstBad good [] earlier item := by
  rintro ⟨later, split, -⟩
  simp at split

theorem isFirstBad_cons_of_bad (bad : ¬ good first) :
    IsFirstBad good (first :: rest) earlier item ↔ earlier = [] ∧ item = first := by
  constructor
  · rintro ⟨later, split, before, -⟩
    cases earlier with
    | nil =>
        obtain ⟨rfl, -⟩ := List.cons.inj split
        exact ⟨rfl, rfl⟩
    | cons head earlier =>
        obtain ⟨rfl, -⟩ := List.cons.inj split
        exact absurd (before _ List.mem_cons_self) bad
  · rintro ⟨rfl, rfl⟩
    exact ⟨rest, rfl, by simp, bad⟩

theorem isFirstBad_cons_of_good (fine : good first) :
    IsFirstBad good (first :: rest) earlier item ↔
      ∃ before, earlier = first :: before ∧ IsFirstBad good rest before item := by
  constructor
  · rintro ⟨later, split, before, bad⟩
    cases earlier with
    | nil =>
        obtain ⟨rfl, -⟩ := List.cons.inj split
        exact absurd fine bad
    | cons head earlier =>
        obtain ⟨rfl, tail⟩ := List.cons.inj split
        exact ⟨earlier, rfl, later, tail,
          fun other member => before other (List.mem_cons_of_mem _ member), bad⟩
  · rintro ⟨before, rfl, later, rfl, others, bad⟩
    exact ⟨later, rfl, List.forall_mem_cons.mpr ⟨fine, others⟩, bad⟩

/-- There is at most one first item that is not good. -/
theorem IsFirstBad.unique {items otherEarlier : List α} {other : α}
    (first : IsFirstBad good items earlier item)
    (otherFirst : IsFirstBad good items otherEarlier other) :
    otherEarlier = earlier ∧ other = item := by
  induction items generalizing earlier otherEarlier with
  | nil => exact absurd first not_isFirstBad_nil
  | cons head rest ih =>
      by_cases fine : good head
      · obtain ⟨before, rfl, inRest⟩ := (isFirstBad_cons_of_good fine).mp first
        obtain ⟨otherBefore, rfl, otherInRest⟩ := (isFirstBad_cons_of_good fine).mp otherFirst
        obtain ⟨rfl, rfl⟩ := ih inRest otherInRest
        exact ⟨rfl, rfl⟩
      · obtain ⟨rfl, rfl⟩ := (isFirstBad_cons_of_bad fine).mp first
        exact (isFirstBad_cons_of_bad fine).mp otherFirst

theorem IsFirstBad.not_all {items : List α} (first : IsFirstBad good items earlier item) :
    ¬ ∀ other ∈ items, good other := by
  obtain ⟨later, rfl, -, bad⟩ := first
  exact fun all => bad (all item (by simp))

end FirstBad

section Buttons

variable {names : List String} {pressed : Buttons} {fault : StepFault}

/-- What each name stands for: the mask with the one bit of its button. -/
def buttonMasks : List (String × UInt16) :=
  [("LEFT", 0x0001), ("RIGHT", 0x0002), ("DOWN", 0x0004), ("UP", 0x0008), ("Z", 0x0010),
    ("R", 0x0020), ("L", 0x0040), ("A", 0x0100), ("B", 0x0200), ("X", 0x0400), ("Y", 0x0800),
    ("START", 0x1000)]

/-- The text is the name of the button in letters of any case. -/
def NamesButton (name : String) (button : Buttons) : Prop :=
  ∃ listed, (listed, button.mask) ∈ buttonMasks ∧ Text.capitals name = listed.toList

def buttonNames : List String :=
  ["LEFT", "RIGHT", "DOWN", "UP", "Z", "R", "L", "A", "B", "X", "Y", "START"]

def IsButtonName (name : String) : Prop :=
  ∃ listed ∈ buttonNames, Text.capitals name = listed.toList

/-- The bit belongs to a button of the given names. -/
def IsNamedBit (names : List String) (place : Nat) : Prop :=
  ∃ name ∈ names, ∃ button, NamesButton name button ∧ button.mask.toBitVec.getLsbD place = true

theorem ofName?_uppercase_eq_some_iff {name : String} {button : Buttons} :
    Buttons.ofName? (Text.uppercase name) = some button ↔ NamesButton name button := by
  have rows : buttonMasks = Buttons.named.map fun entry => (entry.1, entry.2.mask) := by decide
  simp only [Buttons.ofName?_eq_some_iff, NamesButton, rows, ← Text.uppercase_eq_iff,
    exists_eq_right', List.mem_map]
  constructor
  · exact fun member => ⟨_, member, rfl⟩
  · rintro ⟨⟨_, ⟨mask⟩⟩, member, same⟩
    cases same
    exact member

theorem NamesButton.unique {name : String} {button other : Buttons}
    (names : NamesButton name button) (otherNames : NamesButton name other) : other = button := by
  rw [← ofName?_uppercase_eq_some_iff] at names otherNames
  exact Option.some.inj (otherNames.symm.trans names)

theorem isButtonName_iff {name : String} :
    IsButtonName name ↔ ∃ button, NamesButton name button := by
  have rows : buttonNames = buttonMasks.map Prod.fst := by decide
  rw [IsButtonName, rows]
  constructor
  · rintro ⟨_, member, spelled⟩
    obtain ⟨⟨listed, mask⟩, row, rfl⟩ := List.mem_map.mp member
    exact ⟨⟨mask⟩, listed, row, spelled⟩
  · rintro ⟨button, listed, row, spelled⟩
    exact ⟨listed, List.mem_map_of_mem row, spelled⟩

theorem not_isButtonName_of_none {name : String}
    (unknown : Buttons.ofName? (Text.uppercase name) = none) : ¬ IsButtonName name := by
  rw [isButtonName_iff]
  rintro ⟨button, named⟩
  rw [ofName?_uppercase_eq_some_iff.mpr named] at unknown
  cases unknown

theorem isNamedBit_cons {name : String} {button : Buttons} (named : NamesButton name button)
    (place : Nat) :
    IsNamedBit (name :: names) place ↔
      button.mask.toBitVec.getLsbD place = true ∨ IsNamedBit names place := by
  simp only [IsNamedBit, List.exists_mem_cons_iff]
  apply or_congr_left
  constructor
  · rintro ⟨other, otherNamed, bit⟩
    rwa [named.unique otherNamed] at bit
  · exact fun bit => ⟨button, named, bit⟩

/-- The names are compiled just when all are known, to the buttons that they name. -/
theorem compileButtons_eq_ok_iff {buttons : Buttons} :
    compileButtons pressed names = .ok buttons ↔
      (∀ name ∈ names, IsButtonName name) ∧
        ∀ place, buttons.mask.toBitVec.getLsbD place = true ↔
          pressed.mask.toBitVec.getLsbD place = true ∨ IsNamedBit names place := by
  induction names generalizing pressed with
  | nil =>
      have noBit : ∀ place, ¬ IsNamedBit [] place := by simp [IsNamedBit]
      simp only [compileButtons, Except.ok.injEq, List.not_mem_nil, false_imp_iff, implies_true,
        true_and, noBit, or_false]
      constructor
      · rintro rfl
        exact fun _ => Iff.rfl
      · intro same
        exact Buttons.eq_of_bits fun place => (Bool.eq_iff_iff.mpr (same place)).symm
  | cons name names ih =>
      rw [compileButtons]
      cases found : Buttons.ofName? (Text.uppercase name) with
      | none =>
          have unknown := not_isButtonName_of_none found
          simp [unknown]
      | some button =>
          have named := ofName?_uppercase_eq_some_iff.mp found
          have known := isButtonName_iff.mpr ⟨button, named⟩
          simp only [ih, List.forall_mem_cons, known, true_and, isNamedBit_cons named,
            Buttons.getLsbD_union, Bool.or_eq_true, or_assoc]

theorem compileButtons_eq_error_iff :
    compileButtons pressed names = .error fault ↔
      ∃ earlier name, IsFirstBad IsButtonName names earlier name ∧
        fault = .unknownButton name := by
  induction names generalizing pressed with
  | nil => simp [compileButtons, not_isFirstBad_nil]
  | cons name names ih =>
      rw [compileButtons]
      cases found : Buttons.ofName? (Text.uppercase name) with
      | none =>
          have unknown := not_isButtonName_of_none found
          simp [isFirstBad_cons_of_bad unknown, eq_comm]
      | some button =>
          have known := isButtonName_iff.mpr ⟨button, ofName?_uppercase_eq_some_iff.mp found⟩
          simp only [ih, isFirstBad_cons_of_good known]
          constructor
          · rintro ⟨earlier, other, first, rfl⟩
            exact ⟨name :: earlier, other, ⟨earlier, rfl, first⟩, rfl⟩
          · rintro ⟨_, other, ⟨earlier, -, first⟩, rfl⟩
            exact ⟨earlier, other, first, rfl⟩

/-- Letters of another case name the same button. -/
theorem namesButton_congr {name other : String}
    (same : Text.letters other = Text.letters name) (button : Buttons) :
    NamesButton other button ↔ NamesButton name button := by
  rw [NamesButton, NamesButton, Text.capitals_eq_of_letters_eq same]

end Buttons

section Axes

variable {entries : List (String × UInt8)} {state result : PortState} {fault : StepFault}

/-- The axis that each name stands for. -/
def namedAxes : List (String × Axis) :=
  [("stick_x", .stickX), ("stick_y", .stickY), ("substick_x", .substickX),
    ("substick_y", .substickY), ("trigger_left", .triggerLeft), ("trigger_right", .triggerRight)]

def axisNames : List String :=
  ["stick_x", "stick_y", "substick_x", "substick_y", "trigger_left", "trigger_right"]

def IsAxisName (name : String) : Prop := name ∈ axisNames

def IsAxisEntry (entry : String × UInt8) : Prop := IsAxisName entry.1

theorem isAxisName_iff {name : String} :
    IsAxisName name ↔ ∃ axis : Axis, axis.scriptName = name := by
  have listed : axisNames = Axis.all.map Axis.scriptName := by decide
  simp [IsAxisName, listed, Axis.mem_all]

theorem mem_namedAxes_iff {name : String} {axis : Axis} :
    (name, axis) ∈ namedAxes ↔ axis.scriptName = name := by
  have listed : namedAxes = Axis.all.map fun axis => (axis.scriptName, axis) := by decide
  rw [listed, List.mem_map]
  constructor
  · rintro ⟨other, -, same⟩
    cases same
    rfl
  · rintro rfl
    exact ⟨axis, Axis.mem_all axis, rfl⟩

theorem not_isAxisName_of_none {name : String} (unknown : Axis.ofScriptName? name = none) :
    ¬ IsAxisName name := by
  rw [isAxisName_iff]
  rintro ⟨axis, named⟩
  rw [Axis.ofScriptName?_eq_some_iff.mpr named] at unknown
  cases unknown

theorem lookup_of_increasing {name : String} {value : UInt8}
    (increase : KeysIncrease ((name, value) :: entries)) : entries.lookup name = none := by
  rw [List.lookup_eq_none_iff]
  intro entry member
  have above : name < entry.1 := (List.pairwise_cons.mp increase).1 entry member
  simpa using fun same : name = entry.1 => String.lt_irrefl _ (same ▸ above)

/-- The entries are compiled just when all name axes, and every axis gets the byte of its
entry. -/
theorem compileAxes_eq_ok_iff (increase : KeysIncrease entries) :
    compileAxes state entries = .ok result ↔
      (∀ entry ∈ entries, IsAxisName entry.1) ∧ result.buttons = state.buttons ∧
        ∀ axis, result.axis axis = (entries.lookup axis.scriptName).getD (state.axis axis) := by
  induction entries generalizing state with
  | nil => simp [compileAxes, PortState.eq_iff, eq_comm]
  | cons entry entries ih =>
      obtain ⟨name, value⟩ := entry
      rw [compileAxes]
      cases found : Axis.ofScriptName? name with
      | none =>
          have unknown := not_isAxisName_of_none found
          simp [unknown]
      | some named =>
          have name_eq := Axis.ofScriptName?_eq_some_iff.mp found
          have known := isAxisName_iff.mpr ⟨named, name_eq⟩
          have byte : ∀ axis : Axis,
              (entries.lookup axis.scriptName).getD ((state.setAxis named value).axis axis) =
                (((name, value) :: entries).lookup axis.scriptName).getD (state.axis axis) := by
            intro axis
            rw [PortState.axis_setAxis, List.lookup_cons]
            by_cases same : axis = named
            · subst same
              rw [name_eq, lookup_of_increasing increase]
              simp
            · have missed : (axis.scriptName == name) = false := by
                rw [← name_eq]
                simpa [Axis.scriptName_inj] using same
              simp [same, missed]
          simp only [ih (List.pairwise_cons.mp increase).2, List.forall_mem_cons, known, true_and,
            byte]
          rfl

theorem compileAxes_eq_error_iff :
    compileAxes state entries = .error fault ↔
      ∃ earlier entry, IsFirstBad IsAxisEntry entries earlier entry ∧
        fault = .unknownAxis entry.1 := by
  induction entries generalizing state with
  | nil => simp [compileAxes, not_isFirstBad_nil]
  | cons entry entries ih =>
      obtain ⟨name, value⟩ := entry
      rw [compileAxes]
      cases found : Axis.ofScriptName? name with
      | none =>
          have unknown : ¬ IsAxisEntry (name, value) := not_isAxisName_of_none found
          simp [isFirstBad_cons_of_bad unknown, eq_comm]
      | some axis =>
          have known : IsAxisEntry (name, value) :=
            isAxisName_iff.mpr ⟨axis, Axis.ofScriptName?_eq_some_iff.mp found⟩
          simp only [ih, isFirstBad_cons_of_good known]
          constructor
          · rintro ⟨earlier, other, first, rfl⟩
            exact ⟨(name, value) :: earlier, other, ⟨earlier, rfl, first⟩, rfl⟩
          · rintro ⟨_, other, ⟨earlier, -, first⟩, rfl⟩
            exact ⟨earlier, other, first, rfl⟩

/-- In increasing order of names the first unknown name is the least one. -/
theorem exists_isFirstBad_iff_least (increase : KeysIncrease entries) {entry : String × UInt8} :
    (∃ earlier, IsFirstBad IsAxisEntry entries earlier entry) ↔
      entry ∈ entries ∧ ¬ IsAxisName entry.1 ∧
        ∀ other ∈ entries, other.1 < entry.1 → IsAxisName other.1 := by
  constructor
  · rintro ⟨earlier, later, rfl, before, unknown⟩
    refine ⟨by simp, unknown, ?_⟩
    intro other member less
    rcases List.mem_append.mp member with inEarlier | inRest
    · exact before other inEarlier
    · have above := (List.pairwise_append.mp increase).2.1
      rcases List.mem_cons.mp inRest with rfl | inLater
      · exact absurd less (String.lt_irrefl _)
      · exact absurd less (String.lt_asymm ((List.pairwise_cons.mp above).1 other inLater))
  · rintro ⟨member, unknown, least⟩
    obtain ⟨earlier, later, rfl⟩ := List.append_of_mem member
    refine ⟨earlier, later, rfl, ?_, unknown⟩
    intro other inEarlier
    exact least other (List.mem_append_left _ inEarlier)
      ((List.pairwise_append.mp increase).2.2 other inEarlier entry List.mem_cons_self)

end Axes

end Script

end PadCapture
