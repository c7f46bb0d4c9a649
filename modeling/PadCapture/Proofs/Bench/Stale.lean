import PadCapture.Proofs.Bench.Pollers
import PadCapture.Proofs.Bench.QueueHistory
import PadCapture.Proofs.Capture.OwnPorts
import PadCapture.Proofs.Pad.Reports

/-!
# No stale samples

As long as nothing is put into a queue past the adapter, samples wait only in capture mode
and only at their own ports.  A command that opens or closes capture mode, whoever holds it
open besides, clears the queues; every other command leaves capture mode as it is and takes
in samples for their own ports, in capture mode only.
-/

namespace PadCapture

namespace Adapter

variable {adapter : Adapter} {port : Port} {sample : Sample}

theorem of_acceptedState? {number : Nat} {shown : PortState}
    (taken : adapter.acceptedState? port number shown = some sample) :
    adapter.isConfiguring = true ∧ sample.port = port.val := by
  unfold acceptedState? at taken
  split at taken
  · rename_i open_here
    exact ⟨open_here.1, (Sample.port_of_ofState? taken).trans open_here.2⟩
  · cases taken

theorem of_acceptedSample? {offered : Sample}
    (taken : adapter.acceptedSample? port offered = some sample) :
    adapter.isConfiguring = true ∧ sample.port = port.val := by
  unfold acceptedSample? at taken
  split at taken
  · rename_i open_here
    cases taken
    exact open_here
  · cases taken

end Adapter

/-- A sample in a queue was there before or has been accepted. -/
theorem QueueEvent.mem_of_replay? {queue after : List Sample} {events : List QueueEvent}
    (replayed : replay? queue events = some after) {sample : Sample} (member : sample ∈ after) :
    sample ∈ queue ∨ accepted sample ∈ events := by
  induction events generalizing queue with
  | nil =>
      cases replayed
      exact .inl member
  | cons event events ih =>
      obtain ⟨between, acted, later⟩ := Option.bind_eq_some_iff.mp replayed
      rcases ih later with waiting | taken
      · cases event with
        | accepted new =>
            cases acted
            rcases List.mem_append.mp waiting with old | new
            · exact .inl old
            · cases List.mem_singleton.mp new
              exact .inr List.mem_cons_self
        | popped =>
            cases queue with
            | nil => cases acted
            | cons first rest =>
                cases acted
                exact .inl (List.mem_cons_of_mem first waiting)
        | cleared =>
            cases acted
            cases waiting
      · exact .inr (List.mem_cons_of_mem event taken)

namespace QueueHistory

open QueueEvent

variable {bench : Bench} {port : Port}

/-- The command puts a sample into a queue past the adapter. -/
def isDirectPush : Command → Bool
  | .queue (.enqueue _ _) => true
  | _ => false

/-- What opens or closes capture mode does nothing to the queues but clear them. -/
theorem record_of_changes {command : Command} (changing : CaptureMode.changes bench command ≠ []) :
    record bench port command = clearings bench command := by
  cases command with
  | adapter command =>
      cases command with
      | beginCapture | endCapture => rfl
      | _ => exact absurd rfl changing
  | session command =>
      cases command with
      | next name => exact absurd rfl changing
      | _ => rfl
  | registration command => rfl
  | _ => exact absurd rfl changing

section Acceptance

variable {sample : Sample}

theorem accepted_notMem_popped (count : Nat) :
    accepted sample ∉ List.replicate count popped := by
  simp [List.mem_replicate]

theorem accepted_notMem_clearings (command : Command) :
    accepted sample ∉ clearings bench command := by
  simp [clearings]

theorem of_mem_acceptedStates {entries : List (Port × PortState)}
    (member : sample ∈ bench.adapter.acceptedStates port entries) :
    bench.adapter.isConfiguring = true ∧ sample.port = port.val := by
  obtain ⟨entry, _, taken⟩ := List.mem_filterMap.mp member
  exact Adapter.of_acceptedState? taken

/-- The adapter takes in samples for their own ports, and only in capture mode. -/
theorem of_accepted_mem_record {command : Command} (routed : isDirectPush command = false)
    (member : accepted sample ∈ record bench port command) :
    bench.adapter.isConfiguring = true ∧ sample.port = port.val := by
  cases command with
  | adapter command =>
      cases command with
      | update number shown => exact Adapter.of_acceptedState? (by simpa [record] using member)
      | push offered => exact Adapter.of_acceptedSample? (by simpa [record] using member)
      | clearQueues => simp [record] at member
      | _ => exact absurd member (accepted_notMem_clearings _)
  | queue command =>
      cases command with
      | pop number =>
          rw [record] at member
          split at member
          · exact absurd member (accepted_notMem_popped _)
          · cases member
      | clear number =>
          rw [record] at member
          split at member <;> simp at member
      | enqueue number pushed => cases routed
      | drain => exact absurd member (accepted_notMem_popped _)
  | poller command =>
      cases command with
      | next name =>
          rw [record] at member
          split at member
          · exact absurd member (accepted_notMem_popped _)
          · cases member
      | _ => exact absurd member (accepted_notMem_clearings _)
  | session command =>
      cases command with
      | next name =>
          rw [record] at member
          split at member
          · exact absurd member (accepted_notMem_popped _)
          · cases member
      | _ => exact absurd member (accepted_notMem_clearings _)
  | gamepad command =>
      cases command with
      | report reports =>
          rw [record] at member
          split at member
          · exact of_mem_acceptedStates (by simpa using member)
          · cases member
      | _ => exact absurd member (accepted_notMem_clearings _)
  | registration command => exact absurd member (accepted_notMem_clearings _)
  | device command => exact absurd member (accepted_notMem_clearings _)

end Acceptance

end QueueHistory

namespace Adapter

/-- Samples wait only in capture mode, and only at their own ports. -/
structure Tidy (adapter : Adapter) : Prop where
  empty : adapter.isConfiguring = false → ∀ port, adapter.queue port = []
  routed : adapter.Routed

theorem Tidy.of_empty {adapter : Adapter} (empty : ∀ port, adapter.queue port = []) :
    adapter.Tidy where
  empty := fun _ => empty
  routed := fun port _ member => absurd (empty port ▸ member) List.not_mem_nil

end Adapter

namespace Bench

open QueueHistory QueueEvent

variable {bench : Bench} {known : Sample → Prop}

/-- Every waiting sample is a known one, and every held axis is of a known one. -/
structure Founded (known : Sample → Prop) (bench : Bench) : Prop where
  waiting : ∀ port, ∀ sample ∈ bench.adapter.queue port, known sample
  held : ∀ poller, bench.Polls poller → ∀ half, poller.held = some half →
    ∃ sample, known sample ∧ half.IsOf sample

theorem founded_perform (founded : bench.Founded known) (tidy : bench.adapter.Tidy)
    {command : Command}
    (taken : ∀ port sample, accepted sample ∈ record bench port command → known sample) :
    (bench.perform command).value.2.Founded known where
  waiting := by
    intro port sample member
    rcases mem_of_replay? (explains bench port command) member with waiting | new
    · exact founded.waiting port sample waiting
    · exact taken port sample new
  held := by
    intro poller polls half halfAt
    cases bench.origin_perform command polls with
    | kept before => exact founded.held poller before half halfAt
    | @polled poller before =>
        have made := poller.made_next tidy.routed
        rcases made.holding half halfAt with already | ⟨sample, member, own⟩
        · exact founded.held poller before half already
        · obtain ⟨port, _, waiting⟩ := List.mem_flatMap.mp member
          exact ⟨sample, founded.waiting port sample waiting, own⟩
    | fresh kind =>
        rw [CaptureMode.held_fresh] at halfAt
        cases halfAt

/-- No command but a push past the adapter leaves a stale or a misrouted sample. -/
theorem tidy_perform (tidy : bench.adapter.Tidy) {command : Command}
    (routed : isDirectPush command = false) : (bench.perform command).value.2.adapter.Tidy := by
  by_cases changing : CaptureMode.changes bench command = []
  · -- Capture mode stays as it is, so what is taken in is taken in by the same mode.
    have openSessions := CaptureMode.openSessions_perform bench command
    rw [changing, List.foldl_nil] at openSessions
    have configuring : (bench.perform command).value.2.adapter.isConfiguring =
        bench.adapter.isConfiguring := by
      rw [Adapter.isConfiguring, openSessions, Adapter.isConfiguring]
    have origin (port : Port) (sample : Sample)
        (member : sample ∈ (bench.perform command).value.2.adapter.queue port) :
        sample ∈ bench.adapter.queue port ∨
          bench.adapter.isConfiguring = true ∧ sample.port = port.val :=
      (mem_of_replay? (explains bench port command) member).imp_right
        (of_accepted_mem_record routed)
    constructor
    case empty =>
        intro off port
        rw [configuring] at off
        apply List.eq_nil_iff_forall_not_mem.mpr
        intro sample member
        rcases origin port sample member with waiting | ⟨on, _⟩
        · rw [tidy.empty off port] at waiting
          cases waiting
        · rw [off] at on
          cases on
    case routed =>
        intro port sample member
        rcases origin port sample member with waiting | ⟨_, own⟩
        · exact tidy.routed port sample waiting
        · exact own
  · -- Every opening and every closing clears the queues, whoever else holds capture mode open.
    refine .of_empty fun port => ?_
    have explained := explains bench port command
    rw [Explains, record_of_changes changing, clearings, replay?_cleared,
      if_neg changing] at explained
    exact (Option.some.inj explained).symm

theorem tidy_run (tidy : bench.adapter.Tidy) {commands : List Command}
    (routed : ∀ command ∈ commands, isDirectPush command = false) :
    (bench.run commands).value.2.adapter.Tidy :=
  run_preserves (fun bench => bench.adapter.Tidy) (fun command => isDirectPush command = false)
    (fun before routed => tidy_perform before routed) tidy routed

theorem founded_run (founded : bench.Founded known) (tidy : bench.adapter.Tidy)
    {commands : List Command} (routed : ∀ command ∈ commands, isDirectPush command = false)
    (taken : ∀ port sample, accepted sample ∈ history bench port commands → known sample) :
    (bench.run commands).value.2.Founded known := by
  induction commands generalizing bench with
  | nil => exact founded
  | cons command commands ih =>
      rw [List.forall_mem_cons] at routed
      rw [value_run_cons]
      apply ih
      case founded =>
          exact founded_perform founded tidy fun port sample new =>
            taken port sample (List.mem_append_left _ new)
      case tidy => exact tidy_perform tidy routed.1
      case routed => exact routed.2
      case taken =>
          exact fun port sample later => taken port sample (List.mem_append_right _ later)

theorem founded_create (thresholdMode : ThresholdMode) (defaultDeadzone : Single) :
    (Bench.create thresholdMode defaultDeadzone).value.Founded known where
  waiting := fun port sample member => by
    have empty : sample ∈ Adapter.initial.queue port := member
    rw [Adapter.queue_initial] at empty
    cases empty
  held := by
    rintro poller (⟨name, session, present, _⟩ | ⟨name, present⟩) <;> cases present

/-- After every run without pushes past the adapter, all queues are empty unless capture mode
is on, and every sample waits at its own port.  So every poll might as well go by the ports of
the samples: a binding is for the port of the waiting sample that completes it, which is also
that of the axis held before, and a held axis is of the port of an accepted sample. -/
theorem no_stale_samples (thresholdMode : ThresholdMode) (defaultDeadzone : Single)
    {commands : List Command} (routed : ∀ command ∈ commands, isDirectPush command = false) :
    let opening := (Bench.create thresholdMode defaultDeadzone).value
    let bench := (opening.run commands).value.2
    let adapter := bench.adapter
    (adapter.isConfiguring = false → ∀ port, adapter.queue port = []) ∧
      (∀ port, ∀ sample ∈ adapter.queue port, sample.port = port.val) ∧
      (∀ poller : Poller,
        poller.next adapter = poller.nextOwn adapter ∧
          (∀ binding, (poller.next adapter).value.binding = some binding →
            ∃ sample, poller.BoundFrom adapter.waiting sample binding) ∧
          ∀ half, (poller.next adapter).value.poller.held = some half →
            poller.HeldFrom adapter.waiting half) ∧
      ∀ poller, bench.Polls poller → ∀ half, poller.held = some half →
        ∃ sample, (∃ port, accepted sample ∈ history opening port commands) ∧ half.IsOf sample := by
  intro opening bench adapter
  have tidy : opening.adapter.Tidy := .of_empty Adapter.queue_initial
  have tidyAfter : adapter.Tidy := tidy_run tidy routed
  have founded := founded_run (founded_create thresholdMode defaultDeadzone) tidy routed
    fun port sample new => (⟨port, new⟩ : ∃ port, accepted sample ∈ history opening port commands)
  refine ⟨tidyAfter.empty, tidyAfter.routed, fun poller => ?_, founded.held⟩
  have made := poller.made_next tidyAfter.routed
  exact ⟨poller.next_eq_nextOwn tidyAfter.routed, made.bound, made.holding⟩

/-- A press is bound for its own port while a registration lives, and closing capture mode
once too often leaves nothing of it. -/
theorem no_stale_samples_of_press :
    let pressed : Sample := ⟨1, .a, none, axisCentre⟩
    let opened : List Command := [.registration (.hold "held"), .adapter (.push pressed)]
    let opening := (Bench.create .fixed (.zero false)).value
    let adapter := (opening.run opened).value.2.adapter
    let closed := (opening.run (opened ++ [.adapter .endCapture, .registration (.release "held")]))
      |>.value.2.adapter
    (∃ binding sample, (Poller.button.next adapter).value.binding = some binding ∧
        Poller.button.BoundFrom adapter.waiting sample binding) ∧
      closed.isConfiguring = false ∧ ∀ port, closed.queue port = [] := by
  intro pressed opened opening adapter closed
  have bound : (Poller.button.next adapter).value.binding.isSome := by decide +kernel
  obtain ⟨binding, bindingAt⟩ := Option.isSome_iff_exists.mp bound
  obtain ⟨sample, made⟩ :=
    ((no_stale_samples .fixed (.zero false) (by decide)).2.2.1 .button).2.1 binding bindingAt
  have off : closed.isConfiguring = false := by decide
  exact ⟨⟨binding, sample, bindingAt, made⟩, off,
    (no_stale_samples .fixed (.zero false) (by decide)).1 off⟩

/-- A sample pushed past the adapter is stale, and waits where it was put. -/
example :
    let misplaced : Sample := ⟨1, .a, none, axisCentre⟩
    let adapter := ((Bench.create .fixed (.zero false)).value.run
      [.queue (.enqueue 0 misplaced)]).value.2.adapter
    adapter.isConfiguring = false ∧ adapter.queue 0 = [misplaced] := by
  decide

end Bench

end PadCapture
