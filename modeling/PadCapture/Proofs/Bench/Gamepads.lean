import PadCapture.Proofs.Bench.Snapshots
import PadCapture.Proofs.Gamepad.Mirror
import Mathlib.Algebra.Ring.Nat

/-!
# Gamepads of a bench

Between the polls of its gamepads a bench may do anything but update a port itself.  Then the
adapter shows what the gamepads report, each gamepad on its own port, however their reports
are mixed and cut into polls.
-/

namespace PadCapture

/-- The reports that a command delivers. -/
def Command.reports : Command → List Gamepad.Report
  | .gamepad (.report reports) => reports
  | _ => []

def reportsOf (commands : List Command) : List Gamepad.Report := commands.flatMap Command.reports

theorem reportsOf_cons (command : Command) (commands : List Command) :
    reportsOf (command :: commands) = command.reports ++ reportsOf commands := List.flatMap_cons

/-- The command leaves the gamepads the only writer: it updates no port itself and does not
open other gamepads. -/
def Command.leavesGamepads : Command → Bool
  | .adapter (.update ..) | .gamepad (.connect _) => false
  | _ => true

/-- The number of handled reports that a poll answers with. -/
def Reply.handledCount : Reply → Nat
  | .handled count _ => count
  | _ => 0

def handledIn (replies : List Reply) : Nat := (replies.map Reply.handledCount).sum

theorem handledIn_cons (reply : Reply) (replies : List Reply) :
    handledIn (reply :: replies) = reply.handledCount + handledIn replies := by
  simp [handledIn]

theorem handledIn_append (replies more : List Reply) :
    handledIn (replies ++ more) = handledIn replies + handledIn more := by
  simp [handledIn]

namespace Bench

section Uncounted

variable (bench : Bench)

theorem handledCount_queue (command : QueueCommand) :
    (bench.performQueue command).value.1.handledCount = 0 := by
  cases command with
  | pop number | clear number | enqueue number sample =>
      rw [performQueue]
      cases Port.ofNat? number <;> rfl
  | drain => rfl

theorem handledCount_session (command : SessionCommand) :
    (bench.performSession command).value.1.handledCount = 0 := by
  cases command with
  | start name =>
      rw [performSession]
      cases bench.sessionIn? .idle name <;> rfl
  | stop name | next name =>
      rw [performSession]
      cases bench.sessionIn? .capturing name <;> rfl
  | launch | create | discard | kind => rfl

theorem handledCount_poller (command : PollerCommand) :
    (bench.performPoller command).value.1.handledCount = 0 := by
  cases command with
  | create name => rfl
  | next name | reset name =>
      rw [performPoller]
      cases bench.pollers.find? name <;> rfl

theorem handledCount_device (command : DeviceCommand) :
    (bench.performDevice command).value.1.handledCount = 0 := by
  cases command with
  | buttonOfText name text | stickOfText name text =>
      rw [performDevice]
      cases Params.parse text <;> rfl
  | _ => rfl

/-- A command that leaves the gamepads alone is a poll or else writes no port, delivers no report
and answers with no count. -/
theorem quiet_perform {command : Command} (leaves : command.leavesGamepads) :
    (∃ more, command = .gamepad (.report more)) ∨
      Unwritten bench (bench.perform command).value.2 ∧ command.reports = [] ∧
        (bench.perform command).value.1.handledCount = 0 := by
  cases command with
  | adapter command =>
      cases command with
      | update => exact absurd leaves Bool.false_ne_true
      | _ => exact .inr ⟨bench.unwritten_adapter (by simp), rfl, rfl⟩
  | queue command =>
      exact .inr ⟨bench.unwritten_queue command, rfl, bench.handledCount_queue command⟩
  | registration command =>
      exact .inr ⟨bench.unwritten_registration command, rfl, by cases command <;> rfl⟩
  | session command =>
      exact .inr ⟨bench.unwritten_session command, rfl, bench.handledCount_session command⟩
  | poller command =>
      exact .inr ⟨bench.unwritten_poller command, rfl, bench.handledCount_poller command⟩
  | device command =>
      exact .inr ⟨bench.unwritten_device command, rfl, bench.handledCount_device command⟩
  | gamepad command =>
      cases command with
      | connect => exact absurd leaves Bool.false_ne_true
      | refuse reason => exact .inr ⟨⟨fun _ => rfl, rfl⟩, rfl, rfl⟩
      | report more => exact .inl ⟨more, rfl⟩

end Uncounted

/-- The bench has no gamepads yet, and no port was written. -/
structure Unopened (bench : Bench) : Prop where
  absent : bench.gamepads = none
  idle : ∀ port, bench.adapter.state port = .idle

theorem unopened_create (thresholdMode : ThresholdMode) (defaultDeadzone : Single) :
    (create thresholdMode defaultDeadzone).value.Unopened where
  absent := rfl
  idle := Adapter.state_initial

theorem Unopened.run {bench : Bench} (unopened : bench.Unopened) {commands : List Command}
    (leave : ∀ command ∈ commands, command.leavesGamepads) :
    (bench.run commands).value.2.Unopened ∧ handledIn (bench.run commands).value.1 = 0 := by
  induction commands generalizing bench with
  | nil => exact ⟨unopened, rfl⟩
  | cons command commands ih =>
      have step : (bench.perform command).value.2.Unopened ∧
          (bench.perform command).value.1.handledCount = 0 := by
        rcases bench.quiet_perform (leave command (by simp)) with
          ⟨more, rfl⟩ | ⟨unwritten, -, uncounted⟩
        · have nothing : (bench.perform (.gamepad (.report more))).value = (.nothing, bench) := by
            simp [perform, performGamepad, unopened.absent]
          rw [nothing]
          exact ⟨unopened, rfl⟩
        · refine ⟨⟨unwritten.gamepads.trans unopened.absent, fun port => ?_⟩, uncounted⟩
          rw [unwritten.state, unopened.idle]
      obtain ⟨later, total⟩ :=
        ih step.1 fun other member => leave other (List.mem_cons_of_mem _ member)
      rw [value_run_cons]
      exact ⟨later, by rw [handledIn_cons, step.2, total]⟩

/-- The bench has a source that keeps the states of the ports after some reports, and its
adapter shows them. -/
structure Mirrors (connected : List Nat) (reports : List Gamepad.Report) (bench : Bench)
    (source : Gamepad.Source) : Prop where
  present : bench.gamepads = some source
  follows : source.Follows connected reports
  shown : ∀ port, bench.adapter.state port = source.state port

namespace Mirrors

open Gamepad

variable {connected : List Nat} {reports : List Report} {bench : Bench} {source : Source}

theorem connect (unopened : bench.Unopened) (connected : List Nat) :
    (bench.perform (.gamepad (.connect connected))).value.2.Mirrors connected []
      (Source.connect connected).value where
  present := rfl
  follows := Source.follows_connect connected
  shown := by
    intro port
    rw [(Source.follows_connect connected).state, ownChanges_nil]
    exact unopened.idle port

theorem perform (mirrors : bench.Mirrors connected reports source) {command : Command}
    (leaves : command.leavesGamepads) :
    (∃ after, (bench.perform command).value.2.Mirrors connected (reports ++ command.reports)
        after) ∧
      countHandled connected (reports ++ command.reports) =
        countHandled connected reports + (bench.perform command).value.1.handledCount := by
  rcases bench.quiet_perform leaves with ⟨more, rfl⟩ | ⟨unwritten, noReports, uncounted⟩
  · have polled : (bench.perform (.gamepad (.report more))).value =
        let outcome := (source.poll bench.adapter more).value
        (.handled outcome.handled (Port.all.map outcome.adapter.state),
          { bench with adapter := outcome.adapter, gamepads := some outcome.source }) := by
      rw [Bench.perform, performGamepad, mirrors.present]
      rfl
    obtain ⟨follows, shown, counted⟩ := mirrors.follows.poll bench.adapter mirrors.shown more
    rw [polled]
    exact ⟨⟨_, rfl, follows, shown⟩, counted⟩
  · rw [noReports, List.append_nil, uncounted]
    refine ⟨⟨source, unwritten.gamepads.trans mirrors.present, mirrors.follows, ?_⟩, rfl⟩
    intro port
    rw [unwritten.state, mirrors.shown]

theorem run (mirrors : bench.Mirrors connected reports source) {commands : List Command}
    (leave : ∀ command ∈ commands, command.leavesGamepads) :
    (∃ after, (bench.run commands).value.2.Mirrors connected (reports ++ reportsOf commands)
        after) ∧
      countHandled connected (reports ++ reportsOf commands) =
        countHandled connected reports + handledIn (bench.run commands).value.1 := by
  induction commands generalizing bench reports source with
  | nil =>
      rw [reportsOf, List.flatMap_nil, List.append_nil]
      exact ⟨⟨source, mirrors⟩, rfl⟩
  | cons command commands ih =>
      obtain ⟨⟨_, after⟩, counted⟩ := mirrors.perform (leave command (by simp))
      obtain ⟨last, total⟩ :=
        ih after fun later member => leave later (List.mem_cons_of_mem _ member)
      rw [value_run_cons, reportsOf_cons, ← List.append_assoc]
      exact ⟨last, by rw [total, counted, handledIn_cons, Nat.add_assoc]⟩

end Mirrors

/-- The replies and the bench of a run that opens the gamepads between two parts. -/
def runWithGamepads (bench : Bench) (before : List Command) (connected : List Nat)
    (commands : List Command) : List Reply × Bench :=
  let opening := Command.gamepad (.connect connected)
  (bench.run (before ++ opening :: commands)).value

/-- From the opening of the gamepads on, the ports are mirrored and every handled report is
counted. -/
theorem Unopened.runWithGamepads {bench : Bench} (unopened : bench.Unopened)
    {before commands : List Command} (connected : List Nat)
    (leave : ∀ command ∈ before ++ commands, command.leavesGamepads) :
    (∃ source, (bench.runWithGamepads before connected commands).2.Mirrors connected
        (reportsOf commands) source) ∧
      handledIn (bench.runWithGamepads before connected commands).1 =
        Gamepad.countHandled connected (reportsOf commands) := by
  obtain ⟨stillUnopened, uncounted⟩ := unopened.run fun command member =>
    leave command (List.mem_append_left _ member)
  obtain ⟨mirrored, counted⟩ := (Mirrors.connect stillUnopened connected).run fun command member =>
    leave command (List.mem_append_right _ member)
  rw [Bench.runWithGamepads, value_run_append, value_run_cons]
  rw [List.nil_append] at mirrored counted
  refine ⟨mirrored, ?_⟩
  rw [counted, handledIn_append, handledIn_cons, uncounted, Nat.zero_add]
  rfl

end Bench

/-- While the gamepads are the only writer of an adapter, it shows on each port what the source
keeps for it, and this is what the changes of the one gamepad make that owns the port.  Hence
neither the states nor the number of handled reports depends on how the reports of different
gamepads are mixed and cut into polls. -/
theorem gamepads_mirrored (thresholdMode : ThresholdMode) (defaultDeadzone : Single)
    (before : List Command) (connected : List Nat) (commands : List Command)
    (leave : ∀ command ∈ before ++ commands, command.leavesGamepads) :
    let opening := (Bench.create thresholdMode defaultDeadzone).value
    let outcome := opening.runWithGamepads before connected commands
    let reports := reportsOf commands
    (∃ source, outcome.2.gamepads = some source ∧ ∀ port,
      let changes := Gamepad.ownChanges connected reports port
      outcome.2.adapter.state port = source.state port ∧
        source.state port = Gamepad.stateAfter changes ∧
        Gamepad.ShowsLatest changes (source.state port) ∧
        ∀ axis value, Gamepad.latest? (Gamepad.Change.valueOf? axis)
          (Gamepad.sinceDisconnected changes) = some value →
            Gamepad.IsShownAs value ((source.state port).axis axis)) ∧
    handledIn outcome.1 = Gamepad.countHandled connected reports ∧
    ∀ otherBefore otherConnected otherCommands,
      (∀ command ∈ otherBefore ++ otherCommands, command.leavesGamepads) →
        let otherOutcome := opening.runWithGamepads otherBefore otherConnected otherCommands
        let others := reportsOf otherCommands
        Gamepad.appearing otherConnected others = Gamepad.appearing connected reports →
        (∀ gamepad, Gamepad.changesOf gamepad others = Gamepad.changesOf gamepad reports) →
          (∀ port, otherOutcome.2.adapter.state port = outcome.2.adapter.state port) ∧
            handledIn otherOutcome.1 = handledIn outcome.1 := by
  intro opening outcome reports
  have unopened : opening.Unopened := Bench.unopened_create thresholdMode defaultDeadzone
  obtain ⟨⟨source, mirrors⟩, counted⟩ := unopened.runWithGamepads connected leave
  refine ⟨⟨source, mirrors.present, fun port => ?_⟩, counted, ?_⟩
  · have latest := Gamepad.showsLatest_stateAfter (Gamepad.ownChanges connected reports port)
    rw [← mirrors.follows.state] at latest
    exact ⟨mirrors.shown port, mirrors.follows.state port, latest,
      fun axis value given => latest.isShownAs given⟩
  · intro otherBefore otherConnected otherCommands otherLeave otherOutcome others sameOrder
      sameChanges
    obtain ⟨⟨otherSource, otherMirrors⟩, otherCounted⟩ :=
      unopened.runWithGamepads otherConnected otherLeave
    constructor
    · intro port
      rw [otherMirrors.shown, mirrors.shown, otherMirrors.follows.state, mirrors.follows.state,
        Gamepad.ownChanges_congr _ _ sameOrder sameChanges]
    · rw [otherCounted, counted]
      exact Gamepad.countHandled_congr sameOrder sameChanges

/-- Two gamepads whose reports come in one poll. -/
def mixedPoll : List Command :=
  [.gamepad (.report [⟨7, .buttonPressed .south⟩, ⟨3, .disconnected⟩, ⟨3, .buttonPressed .east⟩])]

/-- The same reports of each of them, in three polls. -/
def separatePolls : List Command :=
  [.gamepad (.report [⟨3, .disconnected⟩]), .session (.launch "own" .button),
    .gamepad (.report [⟨3, .buttonPressed .east⟩]),
    .gamepad (.report [⟨7, .buttonPressed .south⟩])]

/-- Both runs handle three reports and leave the ports in the same states. -/
theorem gamepads_mirrored_in_separate_polls :
    let opening := (Bench.create .fixed (.zero false)).value
    let mixed := opening.runWithGamepads [] [7] mixedPoll
    let separate := opening.runWithGamepads [] [7] separatePolls
    (∀ port, separate.2.adapter.state port = mixed.2.adapter.state port) ∧
      handledIn separate.1 = 3 := by
  intro opening mixed separate
  have mirrored := gamepads_mirrored .fixed (.zero false) [] [7] mixedPoll (by decide)
  have sameChanges : ∀ gamepad, Gamepad.changesOf gamepad (reportsOf separatePolls) =
      Gamepad.changesOf gamepad (reportsOf mixedPoll) := by
    intro gamepad
    by_cases first : 7 = gamepad
    · subst first
      rfl
    · by_cases second : 3 = gamepad
      · subst second
        rfl
      · simp [mixedPoll, separatePolls, reportsOf, Command.reports, Gamepad.changesOf, first,
          second]
  obtain ⟨states, count⟩ := mirrored.2.2 [] [7] separatePolls (by decide) (by decide) sameChanges
  exact ⟨states, count.trans (mirrored.2.1.trans (by decide))⟩

end PadCapture
