import PadCapture.Proofs.Script.Names
import PadCapture.Script.Document
import Mathlib.Data.List.Forall2

/-!
# Compiled scripts

A written step is compiled just when it names a port of the adapter, known buttons and known
axes, and what it is compiled to is said by its fields alone: neither the order nor the case of
its button names matters.  A script is compiled step by step, and what is reported is the first
thing that is wrong with the first step that is not as it should be.
-/

namespace PadCapture.Script

section Steps

variable {written : WrittenStep} {step : Step} {fault : StepFault}

/-- The step names a port of the adapter, known buttons and known axes. -/
structure WrittenStep.IsWellFormed (written : WrittenStep) : Prop where
  port : written.port < 4
  buttons : ∀ name ∈ written.buttons, IsButtonName name
  axes : ∀ entry ∈ written.axes, IsAxisName entry.1

/-- The step has the delay, the port, all named buttons and the bytes that are written.  An axis
that is not named is at its centre. -/
structure Describes (written : WrittenStep) (step : Step) : Prop where
  delay : step.delay = written.delay
  port : step.port = written.port
  buttons : ∀ place, step.state.buttons.mask.toBitVec.getLsbD place = true ↔
    IsNamedBit written.buttons place
  axes : ∀ entry ∈ namedAxes, step.state.axis entry.2 = (written.axes.lookup entry.1).getD 128

/-- What is reported about a step: its port, or else the first of its buttons that is unknown,
or else the unknown axis whose name comes first. -/
inductive Faulty (written : WrittenStep) : StepFault → Prop where
  | port (beyond : 4 ≤ written.port) : Faulty written (.portOutOfRange written.port)
  | button (within : written.port < 4) (earlier : List String) (name : String)
      (first : IsFirstBad IsButtonName written.buttons earlier name) :
      Faulty written (.unknownButton name)
  | axis (within : written.port < 4) (known : ∀ name ∈ written.buttons, IsButtonName name)
      (entry : String × UInt8) (member : entry ∈ written.axes) (unknown : ¬ IsAxisName entry.1)
      (least : ∀ other ∈ written.axes, other.1 < entry.1 → IsAxisName other.1) :
      Faulty written (.unknownAxis entry.1)

theorem Describes.axis (describes : Describes written step) (axis : Axis) :
    step.state.axis axis = (written.axes.lookup axis.scriptName).getD 128 :=
  describes.axes (axis.scriptName, axis) (mem_namedAxes_iff.mpr rfl)

/-- A written step describes one step only. -/
theorem Describes.unique {other : Step} (describes : Describes written step)
    (others : Describes written other) : other = step := by
  have sameButtons : other.state.buttons = step.state.buttons :=
    Buttons.eq_of_bits fun place =>
      Bool.eq_iff_iff.mpr ((others.buttons place).trans (describes.buttons place).symm)
  have sameState : other.state = step.state :=
    PortState.eq_iff.mpr ⟨sameButtons, fun axis => by rw [others.axis, describes.axis]⟩
  have sameDelay := others.delay.trans describes.delay.symm
  have samePort := others.port.trans describes.port.symm
  cases step
  cases other
  simp_all

theorem Faulty.not_isWellFormed (faulty : Faulty written fault) : ¬ written.IsWellFormed := by
  intro wellFormed
  cases faulty with
  | port beyond => exact Nat.not_le.mpr wellFormed.port beyond
  | button within earlier name first => exact first.not_all wellFormed.buttons
  | axis within known entry member unknown least => exact unknown (wellFormed.axes entry member)

/-- Only one thing is reported about a step. -/
theorem Faulty.unique {other : StepFault} (faulty : Faulty written fault)
    (others : Faulty written other) : other = fault := by
  cases faulty with
  | port beyond =>
      cases others with
      | port => rfl
      | button within => omega
      | axis within => omega
  | button within earlier name first =>
      cases others with
      | port beyond => omega
      | button _ _ _ otherFirst => rw [(first.unique otherFirst).2]
      | axis _ known => exact absurd known first.not_all
  | axis within known entry member unknown least =>
      cases others with
      | port beyond => omega
      | button _ _ _ first => exact absurd known first.not_all
      | axis _ _ otherEntry otherMember otherUnknown otherLeast =>
          obtain ⟨_, first⟩ :=
            (exists_isFirstBad_iff_least written.sorted).mpr ⟨member, unknown, least⟩
          obtain ⟨_, otherFirst⟩ := (exists_isFirstBad_iff_least written.sorted).mpr
            ⟨otherMember, otherUnknown, otherLeast⟩
          rw [(first.unique otherFirst).2]

/-- The outcome of a step follows the order of the checks. -/
theorem compileStep_outcome (written : WrittenStep) :
    (∃ step, compileStep written = .ok step ∧ written.IsWellFormed ∧ Describes written step) ∨
      ∃ fault, compileStep written = .error fault ∧ Faulty written fault := by
  unfold compileStep
  by_cases beyond : Port.count ≤ written.port
  · exact .inr ⟨_, if_pos beyond, .port beyond⟩
  rw [if_neg beyond]
  have within : written.port < 4 := Nat.not_le.mp beyond
  cases pressed : compileButtons .empty written.buttons with
  | error fault =>
      obtain ⟨earlier, name, first, rfl⟩ := compileButtons_eq_error_iff.mp pressed
      exact .inr ⟨_, rfl, .button within earlier name first⟩
  | ok buttons =>
      obtain ⟨known, bits⟩ := compileButtons_eq_ok_iff.mp pressed
      cases shown : compileAxes { PortState.idle with buttons } written.axes with
      | error fault =>
          obtain ⟨earlier, entry, first, rfl⟩ := compileAxes_eq_error_iff.mp shown
          obtain ⟨member, unknown, least⟩ :=
            (exists_isFirstBad_iff_least written.sorted).mp ⟨earlier, first⟩
          exact .inr ⟨_, by simp [shown], .axis within known entry member unknown least⟩
      | ok state =>
          obtain ⟨named, sameButtons, bytes⟩ := (compileAxes_eq_ok_iff written.sorted).mp shown
          refine .inl ⟨⟨written.delay, written.port, state⟩, by simp [shown],
            ⟨within, known, named⟩, ⟨rfl, rfl, ?_, ?_⟩⟩
          · intro place
            rw [sameButtons]
            simpa [Buttons.empty] using bits place
          · rintro ⟨name, axis⟩ named
            rw [bytes axis, mem_namedAxes_iff.mp named]
            exact congrArg _ (PortState.axis_idle axis)

/-- A step is compiled just when it is well-formed, to the step that it describes. -/
theorem compileStep_eq_ok_iff :
    compileStep written = .ok step ↔ written.IsWellFormed ∧ Describes written step := by
  rcases compileStep_outcome written with ⟨made, outcome, wellFormed, describes⟩ |
    ⟨fault, outcome, faulty⟩
  · rw [outcome, Except.ok.injEq]
    constructor
    · rintro rfl
      exact ⟨wellFormed, describes⟩
    · exact fun other => other.2.unique describes
  · simp [outcome, faulty.not_isWellFormed]

theorem compileStep_eq_error_iff : compileStep written = .error fault ↔ Faulty written fault := by
  rcases compileStep_outcome written with ⟨made, outcome, wellFormed, describes⟩ |
    ⟨found, outcome, faulty⟩
  · rw [outcome]
    constructor
    · intro refused
      cases refused
    · exact fun faulty => absurd wellFormed faulty.not_isWellFormed
  · rw [outcome, Except.error.injEq]
    constructor
    · rintro rfl
      exact faulty
    · exact fun other => other.unique faulty

/-- The steps differ at most in the order, the repetition and the case of button names. -/
structure SameUpToNames (written other : WrittenStep) : Prop where
  port : other.port = written.port
  delay : other.delay = written.delay
  axes : other.axes = written.axes
  names : ∀ letters,
    letters ∈ other.buttons.map Text.letters ↔ letters ∈ written.buttons.map Text.letters

theorem SameUpToNames.symm {other : WrittenStep} (same : SameUpToNames written other) :
    SameUpToNames other written where
  port := same.port.symm
  delay := same.delay.symm
  axes := same.axes.symm
  names := fun letters => (same.names letters).symm

theorem SameUpToNames.exists_name {other : WrittenStep} (same : SameUpToNames written other)
    {name : String} (member : name ∈ other.buttons) :
    ∃ twin ∈ written.buttons, ∀ button, NamesButton name button ↔ NamesButton twin button := by
  obtain ⟨twin, twinMember, sameLetters⟩ :=
    List.mem_map.mp ((same.names _).mp (List.mem_map_of_mem member))
  exact ⟨twin, twinMember, namesButton_congr sameLetters.symm⟩

theorem SameUpToNames.isNamedBit {other : WrittenStep} (same : SameUpToNames written other)
    {place : Nat} (named : IsNamedBit other.buttons place) : IsNamedBit written.buttons place := by
  obtain ⟨name, member, button, names, bit⟩ := named
  obtain ⟨twin, twinMember, sameButton⟩ := same.exists_name member
  exact ⟨twin, twinMember, button, (sameButton button).mp names, bit⟩

theorem compileStep_of_same {other : WrittenStep} (same : SameUpToNames written other)
    (made : compileStep written = .ok step) : compileStep other = .ok step := by
  obtain ⟨wellFormed, describes⟩ := compileStep_eq_ok_iff.mp made
  refine compileStep_eq_ok_iff.mpr ⟨⟨?_, ?_, ?_⟩, ⟨?_, ?_, ?_, ?_⟩⟩
  · rw [same.port]
    exact wellFormed.port
  · intro name member
    obtain ⟨twin, twinMember, sameButton⟩ := same.exists_name member
    obtain ⟨button, named⟩ := isButtonName_iff.mp (wellFormed.buttons twin twinMember)
    exact isButtonName_iff.mpr ⟨button, (sameButton button).mpr named⟩
  · rw [same.axes]
    exact wellFormed.axes
  · rw [same.delay]
    exact describes.delay
  · rw [same.port]
    exact describes.port
  · intro place
    rw [describes.buttons place]
    exact ⟨same.symm.isNamedBit, same.isNamedBit⟩
  · rw [same.axes]
    exact describes.axes

end Steps

section Scripts

variable (first : Nat) {written : List WrittenStep}

theorem compileFrom_eq_ok_iff {steps : List Step} :
    compileFrom first written = .ok steps ↔
      (∀ step ∈ written, step.IsWellFormed) ∧ List.Forall₂ Describes written steps := by
  rw [← List.forall₂_and_left]
  simp only [← compileStep_eq_ok_iff]
  induction written generalizing first steps with
  | nil => cases steps <;> simp [compileFrom]
  | cons head rest ih =>
      rw [compileFrom]
      cases made : compileStep head with
      | error fault => cases steps <;> simp [made]
      | ok step =>
          cases steps with
          | nil => cases compileFrom (first + 1) rest <;> simp [Except.map]
          | cons other steps =>
              simp only [List.forall₂_cons, made, Except.ok.injEq, ← ih (first + 1)]
              cases compileFrom (first + 1) rest <;> simp [Except.map]

/-- Compiling stops at the first step that is not well-formed, with its number. -/
theorem compileFrom_eq_error_iff {fault : NumberedFault} :
    compileFrom first written = .error fault ↔
      ∃ earlier step, IsFirstBad WrittenStep.IsWellFormed written earlier step ∧
        fault.step = first + earlier.length ∧ Faulty step fault.fault := by
  induction written generalizing first with
  | nil => simp [compileFrom, not_isFirstBad_nil]
  | cons head rest ih =>
      rw [compileFrom]
      rcases compileStep_outcome head with ⟨step, made, wellFormed, -⟩ | ⟨found, made, faulty⟩
      · have passed : compileFrom (first + 1) rest = .error fault ↔
            (compileFrom (first + 1) rest).map (step :: ·) = .error fault := by
          cases compileFrom (first + 1) rest <;> simp [Except.map]
        simp only [made, ← passed, ih, isFirstBad_cons_of_good wellFormed]
        constructor
        · rintro ⟨earlier, bad, isFirst, number, wrong⟩
          refine ⟨head :: earlier, bad, ⟨earlier, rfl, isFirst⟩, ?_, wrong⟩
          rw [number, List.length_cons]
          omega
        · rintro ⟨_, bad, ⟨earlier, rfl, isFirst⟩, number, wrong⟩
          refine ⟨earlier, bad, isFirst, ?_, wrong⟩
          rw [number, List.length_cons]
          omega
      · simp only [made, Except.error.injEq, isFirstBad_cons_of_bad faulty.not_isWellFormed]
        constructor
        · rintro rfl
          exact ⟨[], head, ⟨rfl, rfl⟩, rfl, faulty⟩
        · rintro ⟨_, _, ⟨rfl, rfl⟩, number, wrong⟩
          obtain ⟨step, reported⟩ := fault
          cases faulty.unique wrong
          cases number
          rfl

theorem exists_compileFrom_iff :
    (∃ steps, compileFrom first written = .ok steps) ↔ ∀ step ∈ written, step.IsWellFormed := by
  constructor
  · rintro ⟨steps, made⟩
    exact ((compileFrom_eq_ok_iff first).mp made).1
  · intro wellFormed
    cases outcome : compileFrom first written with
    | ok steps => exact ⟨steps, rfl⟩
    | error fault =>
        obtain ⟨_, _, isFirst, -⟩ := (compileFrom_eq_error_iff first).mp outcome
        exact absurd wellFormed isFirst.not_all

theorem compileFrom_of_same {others : List WrittenStep} {steps : List Step}
    (same : List.Forall₂ SameUpToNames written others)
    (made : compileFrom first written = .ok steps) : compileFrom first others = .ok steps := by
  induction same generalizing first steps with
  | nil => exact made
  | @cons head twin rest twins sameHead _ ih =>
      rw [compileFrom] at made ⊢
      cases outcome : compileStep head with
      | error fault => simp [outcome] at made
      | ok step =>
          cases others : compileFrom (first + 1) rest with
          | error fault => simp [outcome, others, Except.map] at made
          | ok following =>
              rw [compileStep_of_same sameHead outcome, ih (first + 1) others]
              simpa [outcome, others] using made

/-- A list of written steps is compiled just when all its steps are well-formed, to one step
for each in the same order.  The order, the repetition and the case of button names do not
matter.  Otherwise the first step that is not well-formed is reported by its number, with what
is wrong with it.  A whole text is compiled like the steps that are read from it. -/
theorem compile_exact (written : List WrittenStep) :
    ((∃ steps, compile written = .ok steps) ↔ ∀ step ∈ written, step.IsWellFormed) ∧
      (∀ steps, compile written = .ok steps ↔
        (∀ step ∈ written, step.IsWellFormed) ∧ List.Forall₂ Describes written steps) ∧
      (∀ others, List.Forall₂ SameUpToNames written others → ∀ steps,
        compile written = .ok steps → compile others = .ok steps) ∧
      (∀ fault, compile written = .error fault ↔
        ∃ earlier step, IsFirstBad WrittenStep.IsWellFormed written earlier step ∧
          fault.step = earlier.length ∧ Faulty step fault.fault) ∧
      ∀ text repeats, (Toml.parse text).bind readDocument = some (repeats, written) →
        parse text = ((compile written).mapError .step).map fun steps => ⟨steps, repeats⟩ := by
  refine ⟨exists_compileFrom_iff 0, fun _ => compileFrom_eq_ok_iff 0,
    fun _ same _ => compileFrom_of_same 0 same, ?_, ?_⟩
  · intro fault
    simp only [compile, compileFrom_eq_error_iff, Nat.zero_add]
  · intro text repeats read
    cases outcome : compile written <;> simp [parse, read, outcome, Except.mapError, Except.map]

-- The second step is reported, and its button before its axis.
example :
    let axes : List (String × UInt8) := [("wheel", 3)]
    compile [⟨0, 5, ["start"], [], .nil⟩,
        ⟨1, 0, ["A", "turbo"], axes, List.pairwise_singleton ..⟩, ⟨4, 0, [], [], .nil⟩] =
      .error ⟨1, .unknownButton "turbo"⟩ := by
  decide

end Scripts

end PadCapture.Script
