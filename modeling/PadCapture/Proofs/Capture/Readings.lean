import PadCapture.Proofs.Bench.Sessions
import PadCapture.Proofs.Capture.SinglePort
import PadCapture.Proofs.Pad.Reports

/-!
# Sticks from readings

States are published at one port, and a stick session that has just begun polls after each
of them.  The first reading that reports an axis opens a stick, and the next one that
reports another axis closes it: the poll after that reading returns the first binding.
-/

namespace PadCapture

namespace Sample

/-- The sample of a state moves the axis that the state reports. -/
theorem bind_livelyAxis?_ofState? (number : Nat) (state : PortState) :
    (ofState? number state).bind livelyAxis? = movedAxis? state := by
  unfold ofState?
  cases moved : movedAxis? state with
  | some axis =>
      have far : 50 < centreDistance (state.axis axis) :=
        (isLastFar_of_movedAxis? state moved).far
      have lively : 13 ≤ centreDistance (state.axis axis) := by omega
      simp [livelyAxis?, lively]
  | none => cases state.buttons.isEmpty <;> simp [livelyAxis?]

end Sample

/-- The sample of a state lets the axis move that the state reports, if it reports one. -/
theorem Poller.offer?_holding_ofState? (port : Port) (held : Option Axis) (state : PortState) :
    (holding port held).offer? port (Sample.ofState? port.val state) =
      (holding port (advance held (Sample.movedAxis? state)).1,
        (advance held (Sample.movedAxis? state)).2.map fun pair =>
          Binding.ofStick port pair.1 pair.2) := by
  rw [← Sample.bind_livelyAxis?_ofState? port.val state]
  cases Sample.ofState? port.val state with
  | none => cases held <;> rfl
  | some sample => exact offer_holding port held sample

namespace Readings

/-- The reading of the given number reports the axis. -/
def ReportsAt (readings : List PortState) (index : Nat) (axis : Axis) : Prop :=
  ∃ reading, readings[index]? = some reading ∧ reading.IsLastFar axis

/-- The first reading that reports another axis than the given one. -/
structure ClosesAt (readings : List PortState) (axisX : Axis) (closing : Nat) (axisY : Axis) :
    Prop where
  closes : ReportsAt readings closing axisY
  different : axisY ≠ axisX
  same_before : ∀ earlier < closing, ∀ axis, ReportsAt readings earlier axis → axis = axisX

/-- The first reading that reports an axis, and the first that reports another one. -/
structure FirstPair (readings : List PortState) (opening closing : Nat) (axisX axisY : Axis) :
    Prop extends ClosesAt readings axisX closing axisY where
  opens : ReportsAt readings opening axisX
  idle_before : ∀ earlier < opening, ∀ axis, ¬ ReportsAt readings earlier axis

/-- The poll of the given number returns the binding, and the earlier ones are in vain. -/
structure IsFirstBinding (polls : List (Option Params)) (closing : Nat) (binding : Params) :
    Prop where
  returned : polls[closing]? = some (some binding)
  in_vain : ∀ earlier < closing, polls[earlier]? = some none

section Lists

variable {reading : PortState} {rest : List PortState} {axis axisX axisY : Axis}

theorem not_reportsAt_nil (index : Nat) : ¬ ReportsAt [] index axis := by
  rintro ⟨reading, found, _⟩
  cases found

theorem reportsAt_cons_zero : ReportsAt (reading :: rest) 0 axis ↔ reading.IsLastFar axis := by
  constructor
  · rintro ⟨_, found, last⟩
    cases found
    exact last
  · exact fun last => ⟨reading, rfl, last⟩

/-- A reading that reports nothing else than the axis closes nothing. -/
theorem closesAt_cons_of_same (same : ∀ axis, reading.IsLastFar axis → axis = axisX)
    (closing : Nat) :
    ClosesAt (reading :: rest) axisX closing axisY ↔
      ∃ later, closing = later + 1 ∧ ClosesAt rest axisX later axisY := by
  constructor
  · rintro ⟨closes, different, same_before⟩
    cases closing with
    | zero => exact absurd (same axisY (reportsAt_cons_zero.mp closes)) different
    | succ later =>
        rw [Nat.forall_lt_succ_left] at same_before
        exact ⟨later, rfl, closes, different, same_before.2⟩
  · rintro ⟨later, rfl, closes, different, same_before⟩
    refine ⟨closes, different, ?_⟩
    rw [Nat.forall_lt_succ_left]
    exact ⟨fun axis last => same axis (reportsAt_cons_zero.mp last), same_before⟩

theorem closesAt_cons_of_other (last : reading.IsLastFar axis) (different : axis ≠ axisX)
    (closing : Nat) :
    ClosesAt (reading :: rest) axisX closing axisY ↔ closing = 0 ∧ axisY = axis := by
  constructor
  · rintro ⟨closes, _, same_before⟩
    cases closing with
    | zero => exact ⟨rfl, last.unique (reportsAt_cons_zero.mp closes)⟩
    | succ later =>
        exact absurd (same_before 0 (Nat.succ_pos later) axis (reportsAt_cons_zero.mpr last))
          different
  · rintro ⟨rfl, rfl⟩
    exact ⟨reportsAt_cons_zero.mpr last, different,
      fun _ before => absurd before (Nat.not_lt_zero _)⟩

/-- A reading that reports nothing opens nothing. -/
theorem firstPair_cons_of_idle (idle : ∀ axis, ¬ reading.IsLastFar axis) (closing : Nat) :
    (∃ opening, FirstPair (reading :: rest) opening closing axisX axisY) ↔
      ∃ later, closing = later + 1 ∧ ∃ opening, FirstPair rest opening later axisX axisY := by
  have same : ∀ axis, reading.IsLastFar axis → axis = axisX :=
    fun axis last => absurd last (idle axis)
  constructor
  · rintro ⟨opening, closes, opens, idle_before⟩
    obtain ⟨later, rfl, pair⟩ := (closesAt_cons_of_same same closing).mp closes
    cases opening with
    | zero => exact absurd (reportsAt_cons_zero.mp opens) (idle axisX)
    | succ opening =>
        rw [Nat.forall_lt_succ_left] at idle_before
        exact ⟨later, rfl, opening, pair, opens, idle_before.2⟩
  · rintro ⟨later, rfl, opening, pair, opens, idle_before⟩
    refine ⟨opening + 1, (closesAt_cons_of_same same _).mpr ⟨later, rfl, pair⟩, opens, ?_⟩
    rw [Nat.forall_lt_succ_left]
    exact ⟨fun axis last => idle axis (reportsAt_cons_zero.mp last), idle_before⟩

/-- A reading that reports an axis opens the pair that the later readings close. -/
theorem firstPair_cons_of_report (last : reading.IsLastFar axis) (closing : Nat) :
    (∃ opening, FirstPair (reading :: rest) opening closing axisX axisY) ↔
      axisX = axis ∧ ∃ later, closing = later + 1 ∧ ClosesAt rest axis later axisY := by
  have alone : ∀ other, reading.IsLastFar other → other = axis :=
    fun other otherLast => last.unique otherLast
  rw [← closesAt_cons_of_same alone]
  constructor
  · rintro ⟨opening, pair⟩
    cases opening with
    | zero =>
        have same : axisX = axis := alone axisX (reportsAt_cons_zero.mp pair.opens)
        exact ⟨same, same ▸ pair.toClosesAt⟩
    | succ opening =>
        exact absurd (reportsAt_cons_zero.mpr last)
          (pair.idle_before 0 (Nat.succ_pos opening) axis)
  · rintro ⟨rfl, pair⟩
    exact ⟨0, pair, reportsAt_cons_zero.mpr last,
      fun _ before => absurd before (Nat.not_lt_zero _)⟩

theorem isFirstBinding_cons_none {polls : List (Option Params)} {closing : Nat}
    {binding : Params} :
    IsFirstBinding (none :: polls) closing binding ↔
      ∃ later, closing = later + 1 ∧ IsFirstBinding polls later binding := by
  constructor
  · rintro ⟨returned, in_vain⟩
    cases closing with
    | zero => cases returned
    | succ later =>
        rw [Nat.forall_lt_succ_left] at in_vain
        exact ⟨later, rfl, returned, in_vain.2⟩
  · rintro ⟨later, rfl, returned, in_vain⟩
    refine ⟨returned, ?_⟩
    rw [Nat.forall_lt_succ_left]
    exact ⟨rfl, in_vain⟩

theorem isFirstBinding_cons_some {polls : List (Option Params)} {closing : Nat}
    {made binding : Params} :
    IsFirstBinding (some made :: polls) closing binding ↔ closing = 0 ∧ binding = made := by
  constructor
  · rintro ⟨returned, in_vain⟩
    cases closing with
    | zero =>
        cases returned
        exact ⟨rfl, rfl⟩
    | succ later => cases in_vain 0 (Nat.succ_pos later)
  · rintro ⟨rfl, rfl⟩
    exact ⟨rfl, fun _ before => absurd before (Nat.not_lt_zero _)⟩

end Lists

/-- What the session returns when the readings are published at the port one by one, with a
poll after each of them. -/
def pollEach (session : Session) (adapter : Adapter) (port : Port) :
    List PortState → List (Option Params)
  | [] => []
  | reading :: rest =>
      let polled := (session.next (adapter.update port.val reading).value).value
      polled.2.1 :: pollEach polled.1 polled.2.2 port rest

/-- The session holds the axis and nothing is waiting. -/
structure Awaits (port : Port) (held : Option Axis) (session : Session) (adapter : Adapter) :
    Prop where
  poller : session.poller = .holding port held
  isConfiguring : adapter.isConfiguring = true
  empty : ∀ other, adapter.queue other = []

section Polls

variable {port : Port} {held : Option Axis} {session : Session} {adapter : Adapter}

theorem awaits_start (phase : Session.Phase) (half : Option HalfBinding) (adapter : Adapter)
    (port : Port) :
    Awaits port none (Session.start (.inPhase phase (.analog half)) adapter).value.1
      (Session.start (.inPhase phase (.analog half)) adapter).value.2 := by
  rw [Session.value_start]
  refine ⟨rfl, ?_, fun other => adapter.queue_beginCapture other⟩
  rw [Adapter.isConfiguring_iff, Adapter.openSessions_beginCapture]
  exact Nat.succ_pos _

/-- A reading and the poll after it let the axis that it reports move. -/
theorem Awaits.poll (awaits : Awaits port held session adapter) (reading : PortState) :
    let polled := (session.next (adapter.update port.val reading).value).value
    let advanced := Poller.advance held (Sample.movedAxis? reading)
    polled.2.1 = (advanced.2.map fun pair => Binding.ofStick port pair.1 pair.2) ∧
      Awaits port advanced.1 polled.1 polled.2.2 := by
  intro polled advanced
  obtain ⟨own, others⟩ :=
    adapter.queue_update_of_empty awaits.isConfiguring awaits.empty port reading
  obtain ⟨rest, next, empty⟩ := (Poller.holding port held).next_of_single own others
  rw [Poller.offer?_holding_ofState?] at next
  have openSessions := Poller.openSessions_next (.holding port held)
    (adapter.update port.val reading).value
  rw [next, Adapter.openSessions_update] at openSessions
  have polled_eq : polled = (session.withPoller (.holding port advanced.1),
      advanced.2.map fun pair => Binding.ofStick port pair.1 pair.2, rest) := by
    simp only [polled]
    rw [Session.value_next, awaits.poller, next]
  rw [polled_eq]
  refine ⟨rfl, rfl, ?_, empty⟩
  have positive := awaits.isConfiguring
  rw [Adapter.isConfiguring_iff] at positive ⊢
  exact lt_of_lt_of_eq positive openSessions.symm

/-- With an axis held, the first binding is returned when another axis is reported. -/
theorem Awaits.isFirstBinding_iff_closesAt {axisX : Axis}
    (awaits : Awaits port (some axisX) session adapter) (readings : List PortState)
    (closing : Nat) (binding : Params) :
    IsFirstBinding (pollEach session adapter port readings) closing binding ↔
      ∃ axisY, ClosesAt readings axisX closing axisY ∧
        binding = Binding.ofStick port axisX axisY := by
  induction readings generalizing session adapter closing with
  | nil =>
      constructor
      · intro first
        cases first.returned
      · rintro ⟨axisY, pair, _⟩
        exact absurd pair.closes (not_reportsAt_nil closing)
  | cons reading rest ih =>
      obtain ⟨made, next⟩ := awaits.poll reading
      rw [pollEach, made]
      by_cases same : ∀ axis, Sample.movedAxis? reading = some axis → axis = axisX
      · rw [Poller.advance_of_same same] at next ⊢
        simp only [Sample.movedAxis?_eq_some_iff] at same
        simp only [Option.map_none, isFirstBinding_cons_none, closesAt_cons_of_same same, ih next]
        constructor
        · rintro ⟨later, rfl, axisY, pair, made⟩
          exact ⟨axisY, ⟨later, rfl, pair⟩, made⟩
        · rintro ⟨axisY, ⟨later, rfl, pair⟩, made⟩
          exact ⟨later, rfl, axisY, pair, made⟩
      · obtain ⟨axis, moved, different⟩ :
            ∃ axis, Sample.movedAxis? reading = some axis ∧ axis ≠ axisX := by simpa using same
        have last := Sample.isLastFar_of_movedAxis? reading moved
        rw [moved, Poller.advance_of_ne different]
        simp only [Option.map_some, isFirstBinding_cons_some,
          closesAt_cons_of_other last different]
        constructor
        · rintro ⟨rfl, rfl⟩
          exact ⟨axis, ⟨rfl, rfl⟩, rfl⟩
        · rintro ⟨axisY, ⟨rfl, rfl⟩, made⟩
          exact ⟨rfl, made⟩

/-- Without an axis held, the first reading that reports one opens the stick. -/
theorem Awaits.isFirstBinding_iff_firstPair (awaits : Awaits port none session adapter)
    (readings : List PortState) (closing : Nat) (binding : Params) :
    IsFirstBinding (pollEach session adapter port readings) closing binding ↔
      ∃ axisX axisY, (∃ opening, FirstPair readings opening closing axisX axisY) ∧
        binding = Binding.ofStick port axisX axisY := by
  induction readings generalizing session adapter closing with
  | nil =>
      constructor
      · intro first
        cases first.returned
      · rintro ⟨axisX, axisY, ⟨opening, pair⟩, _⟩
        exact absurd pair.closes (not_reportsAt_nil closing)
  | cons reading rest ih =>
      obtain ⟨made, next⟩ := awaits.poll reading
      rw [pollEach, made]
      cases moved : Sample.movedAxis? reading with
      | none =>
          have idle : ∀ axis, ¬ reading.IsLastFar axis := by
            intro axis last
            rw [(Sample.movedAxis?_eq_some_iff reading axis).mpr last] at moved
            cases moved
          rw [moved] at next
          simp only [Poller.advance, Option.map_none, isFirstBinding_cons_none, ih next,
            firstPair_cons_of_idle idle]
          constructor
          · rintro ⟨later, rfl, axisX, axisY, pair, made⟩
            exact ⟨axisX, axisY, ⟨later, rfl, pair⟩, made⟩
          · rintro ⟨axisX, axisY, ⟨later, rfl, pair⟩, made⟩
            exact ⟨later, rfl, axisX, axisY, pair, made⟩
      | some axis =>
          have last := Sample.isLastFar_of_movedAxis? reading moved
          rw [moved] at next
          simp only [Poller.advance, Option.map_none, isFirstBinding_cons_none,
            next.isFirstBinding_iff_closesAt, firstPair_cons_of_report last]
          constructor
          · rintro ⟨later, rfl, axisY, pair, made⟩
            exact ⟨axis, axisY, ⟨rfl, later, rfl, pair⟩, made⟩
          · rintro ⟨_, axisY, ⟨rfl, later, rfl, pair⟩, made⟩
            exact ⟨later, rfl, axisY, pair, made⟩

end Polls

end Readings

end PadCapture
