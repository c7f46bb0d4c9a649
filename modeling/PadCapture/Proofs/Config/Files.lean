import PadCapture.Config.File
import PadCapture.Flow.Basic
import PadCapture.Proofs.Params.Lookup

/-!
# Usable configurations

Whatever stands in the place of the configuration file, the program runs with settings that it
can use: those of the file if it describes such settings, and otherwise all the defaults.  A file
that exists is left alone, and one that was written with the defaults is read as the defaults.
-/

namespace PadCapture

namespace Config

/-- The settings that the program relies on: both clocks run, the deadzone is a number, and time
passes between two polls of a capture. -/
structure IsUsable (config : Config) : Prop where
  cpuFrequency : 0 < config.cpuFrequency.toNat
  counterFrequency : 0 < config.counterFrequency.toNat
  analogDeadzone : config.analogDeadzone.isFinite = true
  pollInterval : 0 < config.pace.interval

namespace Fault

/-- The setting that the fault is about is invalid. -/
def Concerns (config : Config) : Fault → Prop
  | .cpuFrequency => config.cpuFrequency = 0
  | .counterFrequency => config.counterFrequency = 0
  | .analogDeadzone => config.analogDeadzone.isFinite = false
  | .pollInterval => config.pollInterval = 0

instance decidableConcerns (config : Config) (fault : Fault) : Decidable (fault.Concerns config) :=
  match fault with
  | .cpuFrequency => inferInstanceAs (Decidable (config.cpuFrequency = 0))
  | .counterFrequency => inferInstanceAs (Decidable (config.counterFrequency = 0))
  | .analogDeadzone => inferInstanceAs (Decidable (config.analogDeadzone.isFinite = false))
  | .pollInterval => inferInstanceAs (Decidable (config.pollInterval = 0))

def order : List Fault := [.cpuFrequency, .counterFrequency, .analogDeadzone, .pollInterval]

/-- The setting is invalid, and all settings before it are valid. -/
def IsFirst (config : Config) (fault : Fault) : Prop :=
  ∃ earlier later, order = earlier ++ fault :: later ∧ fault.Concerns config ∧
    ∀ other ∈ earlier, ¬ other.Concerns config

theorem mem_order (fault : Fault) : fault ∈ order := by
  cases fault <;> decide

end Fault

section Validity

variable {config : Config} {fault : Fault}

/-- The settings are checked in order. -/
theorem fault?_eq_find? : config.fault? = Fault.order.find? fun fault => fault.Concerns config := by
  by_cases cpu : config.cpuFrequency = 0
  · simp [fault?, Fault.order, Fault.Concerns, cpu]
  by_cases counter : config.counterFrequency = 0
  · simp [fault?, Fault.order, Fault.Concerns, cpu, counter]
  cases finite : config.analogDeadzone.isFinite with
  | false => simp [fault?, Fault.order, Fault.Concerns, cpu, counter, finite]
  | true =>
      by_cases interval : config.pollInterval = 0 <;>
        simp [fault?, Fault.order, Fault.Concerns, cpu, counter, finite, interval]

theorem fault?_eq_some_iff : config.fault? = some fault ↔ fault.IsFirst config := by
  rw [fault?_eq_find?, List.find?_eq_some_iff_append]
  simp only [decide_eq_true_eq, Bool.not_eq_true', decide_eq_false_iff_not]
  constructor
  · rintro ⟨concerns, earlier, later, split, before⟩
    exact ⟨earlier, later, split, concerns, before⟩
  · rintro ⟨earlier, later, split, concerns, before⟩
    exact ⟨concerns, earlier, later, split, before⟩

theorem isUsable_iff : config.IsUsable ↔ ∀ fault : Fault, ¬ fault.Concerns config := by
  constructor
  · rintro ⟨cpu, counter, finite, interval⟩ fault
    cases fault with
    | cpuFrequency => exact fun zero => Nat.ne_of_gt cpu (congrArg UInt32.toNat zero)
    | counterFrequency => exact fun zero => Nat.ne_of_gt counter (congrArg UInt32.toNat zero)
    | analogDeadzone => exact fun infinite => by simp [Fault.Concerns, finite] at infinite
    | pollInterval => exact fun zero => Nat.ne_of_gt interval (congrArg UInt64.toNat zero)
  · intro valid
    constructor
    case cpuFrequency =>
      exact Nat.pos_of_ne_zero fun zero => valid .cpuFrequency (UInt32.toNat_inj.mp zero)
    case counterFrequency =>
      exact Nat.pos_of_ne_zero fun zero => valid .counterFrequency (UInt32.toNat_inj.mp zero)
    case analogDeadzone => simpa [Fault.Concerns] using valid .analogDeadzone
    case pollInterval =>
      exact Nat.pos_of_ne_zero fun zero => valid .pollInterval (UInt64.toNat_inj.mp zero)

/-- No fault is found just in the settings that can be used. -/
theorem fault?_eq_none_iff : config.fault? = none ↔ config.IsUsable := by
  rw [fault?_eq_find?, List.find?_eq_none, isUsable_iff]
  simp [Fault.mem_order]

theorem isUsable_default : default.IsUsable :=
  fault?_eq_none_iff.mp (by decide)

end Validity

section Text

variable {text : String} {config : Config} {fault : Fault}

/-- The configuration that a text describes, whether its settings can be used or not. -/
def Described (text : String) (config : Config) : Prop :=
  (Toml.parse text).bind ofDocument? = some config

theorem parse_eq_ok_iff : parse text = .ok config ↔ Described text config ∧ config.IsUsable := by
  rw [Described, ← fault?_eq_none_iff, parse]
  cases (Toml.parse text).bind ofDocument? with
  | none => simp
  | some found =>
      cases faulty : found.fault? with
      | none =>
          simp only [faulty, Except.ok.injEq, Option.some.injEq]
          constructor
          · rintro rfl
            exact ⟨rfl, faulty⟩
          · exact And.left
      | some fault =>
          simp only [faulty, reduceCtorEq, Option.some.injEq, false_iff, not_and]
          rintro rfl valid
          rw [faulty] at valid
          cases valid

theorem parse_eq_invalid_iff :
    parse text = .error (.invalid fault) ↔
      ∃ config, Described text config ∧ fault.IsFirst config := by
  simp only [Described, ← fault?_eq_some_iff, parse]
  cases (Toml.parse text).bind ofDocument? with
  | none => simp
  | some found => cases faulty : found.fault? <;> simp [faulty]

def defaultText : String :=
  "[clock]\ncpu_frequency = 1020000000\nclock_frequency = 19200000\n" ++
    "\n[input]\naxis_threshold_mode = \"fixed\"\nanalog_deadzone = 0.0\n" ++
    "capture_poll_interval_ms = 10\ncapture_timeout_ms = 5000\n\n[producer]\n"

theorem text?_default : default.text? = some defaultText := by
  decide +kernel

theorem described_defaultText : Described defaultText default := by
  unfold Described
  decide +kernel

/-- The defaults are read back from their document. -/
theorem parse_defaultText : parse defaultText = .ok default :=
  parse_eq_ok_iff.mpr ⟨described_defaultText, isUsable_default⟩

end Text

section Files

variable {directory : String} {place : Place} {config : Config} {fault : Fault}

/-- There is a file, and its text describes the configuration. -/
def DescribedAt (place : Place) (config : Config) : Prop :=
  ∃ content text, place = .file content ∧ Text.decode? content = some text ∧ Described text config

theorem readText_eq_ok_iff {text : String} :
    readText place = .ok text ↔
      ∃ content, place = .file content ∧ Text.decode? content = some text := by
  cases place with
  | missing => simp [readText]
  | barred => simp [readText]
  | unreadable => simp [readText]
  | file content => cases decoded : Text.decode? content <;> simp [readText, decoded]

theorem describedAt_iff :
    DescribedAt place config ↔ ∃ text, readText place = .ok text ∧ Described text config := by
  simp only [readText_eq_ok_iff]
  constructor
  · rintro ⟨content, text, atPlace, decoded, described⟩
    exact ⟨text, ⟨content, atPlace, decoded⟩, described⟩
  · rintro ⟨text, ⟨content, atPlace, decoded⟩, described⟩
    exact ⟨content, text, atPlace, decoded, described⟩

/-- Reading succeeds just when the file describes settings that can be used, with these. -/
theorem read_eq_ok_iff :
    read directory place = .ok config ↔ DescribedAt place config ∧ config.IsUsable := by
  have parsed : read directory place = .ok config ↔
      ∃ text, readText place = .ok text ∧ parse text = .ok config := by
    rw [read]
    cases readText place with
    | error obstacle => simp
    | ok text => rcases parsed : parse text with (_ | fault) | found <;> simp [parsed]
  simp only [parsed, parse_eq_ok_iff, describedAt_iff, ← and_assoc, exists_and_right]

theorem read_eq_invalid_iff :
    read directory place = .error (.invalid fault) ↔
      ∃ config, DescribedAt place config ∧ fault.IsFirst config := by
  have parsed : read directory place = .error (.invalid fault) ↔
      ∃ text, readText place = .ok text ∧ parse text = .error (.invalid fault) := by
    rw [read]
    cases readText place with
    | error obstacle => simp
    | ok text => rcases parsed : parse text with (_ | fault) | found <;> simp [parsed]
  simp only [parsed, parse_eq_invalid_iff, describedAt_iff]
  constructor
  · rintro ⟨text, shown, config, described, first⟩
    exact ⟨config, ⟨text, shown, described⟩, first⟩
  · rintro ⟨config, ⟨text, shown, described⟩, first⟩
    exact ⟨text, shown, config, described, first⟩

theorem value_ensure_of_taken (taken : place.isTaken = true) :
    (ensure directory place).value = (read directory place, place) := by
  rw [ensure, if_pos taken]
  rfl

theorem value_ensure_missing :
    (ensure directory .missing).value = (.ok default, .file (Text.encode defaultText)) := by
  simp [ensure, Place.isTaken, save, text?_default]

/-- Where no file can be written, the obstacle to writing is reported, and nothing changes. -/
theorem exists_value_ensure_barred (directory : String) (reading : Obstacle) (writing : Barrier) :
    ∃ path obstacle, (ensure directory (.barred reading writing)).value =
      (.error (.unwritable path obstacle), .barred reading writing) := by
  cases writing with
  | folder obstacle =>
      exact ⟨folderPath directory, obstacle, by simp [ensure, Place.isTaken, save, text?_default]⟩
  | file obstacle =>
      exact ⟨filePath directory, obstacle, by simp [ensure, Place.isTaken, save, text?_default]⟩

theorem value_obtain :
    (obtain directory place).value =
      match (ensure directory place).value with
      | (.ok config, after) => (config, after)
      | (.error _, after) => (default, after) := by
  rw [obtain, Logged.value_bind]
  rcases (ensure directory place).value with ⟨_ | _, _⟩ <;> rfl

/-- The file that is written with the defaults is read as the defaults. -/
theorem read_defaultText :
    read directory (.file (Text.encode defaultText)) = .ok default := by
  rw [read, readText, Text.decode?_encode]
  simp [parse_defaultText]

/-- What is run with are the settings of the file where these can be used, and the defaults in
every other place. -/
theorem obtained_of_described (described : DescribedAt place config) (usable : config.IsUsable) :
    (obtain directory place).value = (config, place) := by
  have success : read directory place = .ok config := read_eq_ok_iff.mpr ⟨described, usable⟩
  obtain ⟨content, _, rfl, -⟩ := described
  rw [value_obtain, value_ensure_of_taken rfl, success]

theorem obtained_of_not_described
    (unusable : ∀ config, DescribedAt place config → ¬ config.IsUsable) :
    (obtain directory place).value.1 = default := by
  cases place with
  | missing => rw [value_obtain, value_ensure_missing]
  | barred reading writing =>
      obtain ⟨path, obstacle, refused⟩ := exists_value_ensure_barred directory reading writing
      rw [value_obtain, refused]
  | unreadable => rw [value_obtain, value_ensure_of_taken rfl]; rfl
  | file content =>
      rw [value_obtain, value_ensure_of_taken rfl]
      cases outcome : read directory (.file content) with
      | error fault => rfl
      | ok config =>
          obtain ⟨described, usable⟩ := read_eq_ok_iff.mp outcome
          exact absurd usable (unusable config described)

theorem obtained_isUsable : (obtain directory place).value.1.IsUsable := by
  by_cases described : ∃ config, DescribedAt place config ∧ config.IsUsable
  · obtain ⟨config, describes, usable⟩ := described
    rw [obtained_of_described describes usable]
    exact usable
  · rw [obtained_of_not_described fun config describes usable =>
      described ⟨config, describes, usable⟩]
    exact isUsable_default

theorem obtained_place_of_taken (taken : place.isTaken = true) :
    (obtain directory place).value.2 = place := by
  rw [value_obtain, value_ensure_of_taken taken]
  cases read directory place <;> rfl

/-- What was ensured once is found again. -/
theorem ensure_again {after : Place}
    (ensured : (ensure directory place).value = (.ok config, after)) :
    (ensure directory after).value = (.ok config, after) := by
  cases taken : place.isTaken with
  | true =>
      rw [value_ensure_of_taken taken] at ensured
      obtain ⟨success, rfl⟩ := Prod.mk.inj ensured
      rw [value_ensure_of_taken taken, success]
  | false =>
      cases place with
      | missing =>
          rw [value_ensure_missing] at ensured
          obtain ⟨same, rfl⟩ := Prod.mk.inj ensured
          rw [value_ensure_of_taken rfl, read_defaultText, same]
      | barred reading writing =>
          obtain ⟨path, obstacle, refused⟩ := exists_value_ensure_barred directory reading writing
          rw [refused] at ensured
          cases (Prod.mk.inj ensured).1
      | unreadable => cases taken
      | file content => cases taken

theorem ensure_eq_invalid_iff :
    (ensure directory place).value.1 = .error (.invalid fault) ↔
      ∃ config, DescribedAt place config ∧ fault.IsFirst config := by
  cases taken : place.isTaken with
  | true => rw [value_ensure_of_taken taken, read_eq_invalid_iff]
  | false =>
      have undescribed : ¬ ∃ config, DescribedAt place config ∧ fault.IsFirst config := by
        rintro ⟨_, ⟨_, _, rfl, -⟩, -⟩
        cases taken
      cases place with
      | missing => simp [value_ensure_missing, undescribed]
      | barred reading writing =>
          obtain ⟨path, obstacle, refused⟩ := exists_value_ensure_barred directory reading writing
          simp [refused, undescribed]
      | unreadable => cases taken
      | file content => cases taken

/-- Whatever stands in the place of the configuration file, the settings that the program runs
with can be used.  They are those of the file if it describes settings that can be used, and
the defaults otherwise.  What exists is left as it is, and where nothing is the defaults are
written if a file can be.  What was ensured once is found again, and the first invalid setting
is the one that is reported. -/
theorem obtain_usable (directory : String) (place : Place) :
    let obtained := (obtain directory place).value
    obtained.1.IsUsable ∧
      (∀ config, DescribedAt place config → config.IsUsable → obtained.1 = config) ∧
      ((∀ config, DescribedAt place config → ¬ config.IsUsable) → obtained.1 = default) ∧
      (place.isTaken = true → obtained.2 = place) ∧
      (place = .missing →
        default.text? = some defaultText ∧ obtained.2 = .file (Text.encode defaultText)) ∧
      (∀ reading writing, place = .barred reading writing → obtained.2 = place) ∧
      (∀ config after, (ensure directory place).value = (.ok config, after) →
        (ensure directory after).value = (.ok config, after)) ∧
      (∀ fault, (ensure directory place).value.1 = .error (.invalid fault) ↔
        ∃ config, DescribedAt place config ∧ fault.IsFirst config) ∧
      ∀ config fault, fault? config = some fault ↔ fault.IsFirst config := by
  refine ⟨obtained_isUsable, ?_, obtained_of_not_described, obtained_place_of_taken, ?_, ?_,
    fun _ _ => ensure_again, fun _ => ensure_eq_invalid_iff, fun _ _ => fault?_eq_some_iff⟩
  · intro config described usable
    rw [obtained_of_described described usable]
  · rintro rfl
    rw [value_obtain, value_ensure_missing]
    exact ⟨text?_default, rfl⟩
  · rintro reading writing rfl
    obtain ⟨path, obstacle, refused⟩ := exists_value_ensure_barred directory reading writing
    rw [value_obtain, refused]

-- Three settings are invalid, and the first of them is reported.
example :
    fault? { default with counterFrequency := 0, analogDeadzone := .nan, pollInterval := 0 } =
      some .counterFrequency := by
  decide

end Files

end Config

end PadCapture
