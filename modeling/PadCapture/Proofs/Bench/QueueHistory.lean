import PadCapture.Proofs.Adapter.QueueEvents
import PadCapture.Proofs.Bench.CaptureMode
import PadCapture.Proofs.Capture.Pops
import PadCapture.Proofs.Gamepad.Published

/-!
# Histories of the queues

Every command of the bench has a record of what it does to the queue of a port: which
samples are accepted there, how many are popped, by whomever, and how often it is cleared.
The records of a run put together are a history of the queue, which can be carried out and
leads to the queue itself.
-/

namespace PadCapture

namespace Adapter

variable (adapter : Adapter) (port : Port)

/-- The samples that published states leave at a port. -/
def acceptedStates (entries : List (Port × PortState)) : List Sample :=
  entries.filterMap fun entry => adapter.acceptedState? port entry.1.val entry.2

theorem acceptedStates_congr {other : Adapter} (same : other.openSessions = adapter.openSessions)
    (entries : List (Port × PortState)) :
    other.acceptedStates port entries = adapter.acceptedStates port entries := by
  have configuring : other.isConfiguring = adapter.isConfiguring := by
    rw [isConfiguring, isConfiguring, same]
  simp only [acceptedStates, acceptedState?, configuring]

theorem queue_foldl_update (entries : List (Port × PortState)) :
    (entries.foldl (fun adapter entry => (adapter.update entry.1.val entry.2).value)
      adapter).queue port = adapter.queue port ++ adapter.acceptedStates port entries := by
  induction entries generalizing adapter with
  | nil => exact (List.append_nil _).symm
  | cons entry entries ih =>
      have first := adapter.queue_update port entry.1.val entry.2
      have same := adapter.openSessions_update entry.1.val entry.2
      rw [List.foldl_cons, ih, first, adapter.acceptedStates_congr port same, List.append_assoc]
      congr 1
      rw [acceptedStates, acceptedStates, List.filterMap_cons]
      cases adapter.acceptedState? port entry.1.val entry.2 <;> rfl

end Adapter

namespace QueueHistory

open QueueEvent

section Definitions

variable (bench : Bench) (port : Port)

/-- The pops that an operation notes, as events of one queue. -/
def pops {α : Type} (result : Logged α) : List QueueEvent := List.replicate result.pops popped

/-- The pops of a poll at the port. -/
def pollPops (poller : Poller) : List QueueEvent :=
  List.replicate (Poller.popsAt port poller bench.adapter Port.all) popped

/-- Opening and closing capture mode clear the queue every time. -/
def clearings (command : Command) : List QueueEvent :=
  (CaptureMode.changes bench command).map fun _ => cleared

/-- What a command does to the queue of the port, in order. -/
def record : Command → List QueueEvent
  | .adapter (.update number shown) =>
      (bench.adapter.acceptedState? port number shown).toList.map accepted
  | .adapter (.push sample) => (bench.adapter.acceptedSample? port sample).toList.map accepted
  | .adapter .clearQueues => [cleared]
  | .queue (.pop number) => if number = port.val then pops (bench.adapter.pop port) else []
  | .queue (.clear number) => if number = port.val then [cleared] else []
  | .queue (.enqueue number sample) => if number = port.val then [accepted sample] else []
  | .queue .drain => pops (bench.adapter.takeAll port)
  | .session (.next name) =>
      match bench.sessionIn? .capturing name with
      | some session => pollPops bench port session.poller
      | none => []
  | .poller (.next name) =>
      match bench.pollers.find? name with
      | some poller => pollPops bench port poller
      | none => []
  | .gamepad (.report reports) =>
      match bench.gamepads with
      | some source =>
          (bench.adapter.acceptedStates port (source.published reports)).map accepted
      | none => []
  | command => clearings bench command

/-- The history of the queue of the port in a run. -/
def history (bench : Bench) (port : Port) : List Command → List QueueEvent
  | [] => []
  | command :: commands =>
      record bench port command ++ history (bench.perform command).value.2 port commands

end Definitions

/-- The record of the command can be carried out and leads to the queue after it. -/
def Explains (bench : Bench) (port : Port) (command : Command) : Prop :=
  replay? (bench.adapter.queue port) (record bench port command) =
    some ((bench.perform command).value.2.adapter.queue port)

section Steps

variable (bench : Bench) (port : Port)

theorem queue_dropSession_eq (adapter : Adapter) (name : String) :
    (Bench.dropSession adapter (bench.sessions.find? name)).value.queue port =
      if CaptureMode.sessionClosed bench name = [] then adapter.queue port else [] := by
  rw [Bench.value_dropSession, CaptureMode.sessionClosed]
  cases bench.isCapturing name <;> simp

theorem queue_registration (command : RegistrationCommand) :
    (bench.performRegistration command).value.2.adapter.queue port =
      if CaptureMode.changes bench (.registration command) = [] then bench.adapter.queue port
      else [] := by
  cases command with
  | hold name =>
      rw [Bench.hold_effect, CaptureMode.changes, if_neg (List.cons_ne_nil _ _)]
      dsimp only
      split <;> simp
  | release name =>
      rw [Bench.release_effect, CaptureMode.changes, CaptureMode.registrationClosed]
      cases (bench.registrations.find? name).isSome <;> simp

/-- A session command other than a poll clears the queue if it opens or closes capture
mode, and leaves it alone otherwise. -/
theorem queue_session {command : SessionCommand} (noPoll : ∀ name, command ≠ .next name) :
    (bench.performSession command).value.2.adapter.queue port =
      if CaptureMode.changes bench (.session command) = [] then bench.adapter.queue port
      else [] := by
  cases command with
  | launch name kind =>
      rw [Bench.launch_result, CaptureMode.changes, if_neg (List.cons_ne_nil _ _)]
      have dropped := queue_dropSession_eq bench port bench.adapter.beginCapture.value name
      rw [Adapter.queue_beginCapture, ite_self] at dropped
      exact dropped
  | create name kind =>
      rw [Bench.create_result]
      exact queue_dropSession_eq bench port bench.adapter name
  | start name =>
      cases found : bench.sessionIn? .idle name with
      | none => simp [Bench.start_without_effect bench name found, CaptureMode.changes, found]
      | some session => simp [Bench.start_effect bench name found, CaptureMode.changes, found]
  | stop name =>
      rw [CaptureMode.changes, CaptureMode.sessionClosed]
      cases found : bench.sessionIn? .capturing name with
      | none =>
          have was := bench.isCapturing_of_not_capturing name found
          simp [Bench.stop_without_effect bench name found, was]
      | some session =>
          have was := bench.isCapturing_of_capturing name found
          simp [Bench.stop_effect bench name found, was]
  | discard name =>
      rw [Bench.discard_result]
      exact queue_dropSession_eq bench port bench.adapter name
  | kind name => rfl
  | next name => exact absurd rfl (noPoll name)

theorem explains_of_clearings {command : Command}
    (recorded : record bench port command = clearings bench command)
    (emptied : (bench.perform command).value.2.adapter.queue port =
      if CaptureMode.changes bench command = [] then bench.adapter.queue port else []) :
    Explains bench port command := by
  rw [Explains, recorded, clearings, replay?_cleared, emptied]

theorem explains_adapter (command : AdapterCommand) : Explains bench port (.adapter command) := by
  cases command with
  | update number shown =>
      have queued := bench.adapter.queue_update port number shown
      exact (replay?_accepted _ _).trans (congrArg some queued.symm)
  | push sample =>
      have queued := bench.adapter.queue_push port sample
      exact (replay?_accepted _ _).trans (congrArg some queued.symm)
  | clearQueues =>
      have emptied := bench.adapter.queue_emptied port
      exact congrArg some emptied.symm
  | beginCapture =>
      have emptied := bench.adapter.queue_beginCapture port
      exact congrArg some emptied.symm
  | endCapture =>
      have emptied := bench.adapter.queue_endCapture port
      exact congrArg some emptied.symm
  | isConfiguring | readState | readStates | isPressed => rfl

theorem replay?_pollPops (poller : Poller) :
    replay? (bench.adapter.queue port) (pollPops bench port poller) =
      some ((poller.next bench.adapter).value.rest.queue port) := by
  obtain ⟨enough, rest_eq⟩ := poller.queue_drainPorts_eq_drop bench.adapter port Port.all
  rw [pollPops, replay?_popped _ enough, ← rest_eq]
  rfl

theorem explains_session (command : SessionCommand) : Explains bench port (.session command) := by
  cases command with
  | next name =>
      rw [Explains, record]
      change _ = some ((bench.performSession (.next name)).value.2.adapter.queue port)
      cases found : bench.sessionIn? .capturing name with
      | none =>
          rw [Bench.next_without_effect bench name found]
          rfl
      | some session =>
          rw [Bench.next_effect bench name found]
          exact replay?_pollPops bench port session.poller
  | launch | create | start | stop | discard | kind =>
      exact explains_of_clearings bench port rfl
        (queue_session bench port fun _ same => by cases same)

theorem explains_poller (command : PollerCommand) : Explains bench port (.poller command) := by
  cases command with
  | create name => rfl
  | next name =>
      rw [Explains, record]
      change _ = some ((bench.performPoller (.next name)).value.2.adapter.queue port)
      cases found : bench.pollers.find? name with
      | none =>
          simp only [Bench.performPoller, found]
          rfl
      | some poller =>
          simp only [Bench.performPoller, found]
          exact replay?_pollPops bench port poller
  | reset name =>
      rw [Explains]
      change _ = some ((bench.performPoller (.reset name)).value.2.adapter.queue port)
      cases found : bench.pollers.find? name <;> simp only [Bench.performPoller, found] <;> rfl

theorem takeQueues_eq_emptiedAt (adapter : Adapter) (ports : List Port) :
    (Bench.takeQueues adapter ports).value.2 = adapter.emptiedAt ports := by
  induction ports generalizing adapter with
  | nil => rfl
  | cons first ports ih => exact ih (adapter.setQueue first [])

/-- A command at the port of some number has an effect on this port only, and none at all
if there is no such port. -/
theorem replay?_of_port (effect : Port → Adapter) {number : Nat} {events : List QueueEvent}
    {after : Adapter}
    (after_eq : after = ((Port.ofNat? number).map effect).getD bench.adapter)
    (elsewhere : ∀ slot, slot ≠ port → (effect slot).queue port = bench.adapter.queue port)
    (here : replay? (bench.adapter.queue port) events = some ((effect port).queue port)) :
    replay? (bench.adapter.queue port) (if number = port.val then events else []) =
      some (after.queue port) := by
  subst after_eq
  by_cases own : number = port.val
  · subst own
    rw [if_pos rfl, here, Port.ofNat?_val]
    rfl
  · rw [if_neg own]
    cases known : Port.ofNat? number with
    | none => rfl
    | some slot =>
        have different : slot ≠ port := by
          rintro rfl
          exact own (Port.val_of_ofNat? known)
        exact congrArg some (elsewhere slot different).symm

theorem explains_queue (command : QueueCommand) : Explains bench port (.queue command) := by
  cases command with
  | pop number =>
      apply replay?_of_port bench port fun slot => (bench.adapter.pop slot).value.2
      case after_eq =>
          change (bench.performQueue (.pop number)).value.2.adapter = _
          rw [Bench.performQueue]
          cases Port.ofNat? number <;> rfl
      case elsewhere =>
          intro slot different
          rw [Adapter.queue_pop, if_neg different, List.drop_zero]
      case here =>
          have enough := bench.adapter.pops_pop_le port
          rw [Adapter.queue_pop, if_pos rfl, pops, replay?_popped _ enough]
  | clear number =>
      apply replay?_of_port bench port fun slot => (bench.adapter.takeAll slot).value.2
      case after_eq =>
          change (bench.performQueue (.clear number)).value.2.adapter = _
          rw [Bench.performQueue]
          cases Port.ofNat? number <;> rfl
      case elsewhere =>
          exact fun slot different => bench.adapter.queue_setQueue_of_ne slot different.symm []
      case here =>
          have emptied := bench.adapter.queue_setQueue_self port []
          exact congrArg some emptied.symm
  | enqueue number sample =>
      apply replay?_of_port bench port fun slot => bench.adapter.enqueue slot sample
      case after_eq =>
          change (bench.performQueue (.enqueue number sample)).value.2.adapter = _
          rw [Bench.performQueue]
          cases Port.ofNat? number <;> rfl
      case elsewhere =>
          exact fun slot different => bench.adapter.queue_enqueue_of_ne slot different.symm sample
      case here =>
          have queued := bench.adapter.queue_enqueue_self port sample
          exact congrArg some queued.symm
  | drain =>
      have taken := bench.adapter.pops_takeAll port
      rw [Explains]
      change _ = some ((Bench.takeQueues bench.adapter Port.all).value.2.queue port)
      rw [takeQueues_eq_emptiedAt, Adapter.emptiedAt_all, Adapter.queue_emptied, record, pops,
        taken, replay?_popped _ (Nat.le_refl _), List.drop_length]

theorem explains_device (command : DeviceCommand) : Explains bench port (.device command) := by
  rw [Explains]
  cases command with
  | buttonOfText name text | stickOfText name text =>
      change _ = some ((bench.performDevice _).value.2.adapter.queue port)
      cases parsed : Params.parse text <;> simp only [Bench.performDevice, parsed] <;> rfl
  | _ => rfl

theorem explains_gamepad (command : GamepadCommand) : Explains bench port (.gamepad command) := by
  cases command with
  | connect connected | refuse reason => rfl
  | report reports =>
      rw [Explains, record]
      change _ = some ((bench.performGamepad (.report reports)).value.2.adapter.queue port)
      cases present : bench.gamepads with
      | none =>
          simp only [Bench.performGamepad, present]
          rfl
      | some source =>
          simp only [Bench.performGamepad, present, Logged.value_bind, Logged.value_pure]
          rw [replay?_accepted, source.adapter_poll, Adapter.queue_foldl_update]

theorem explains (command : Command) : Explains bench port command := by
  cases command with
  | adapter command => exact explains_adapter bench port command
  | queue command => exact explains_queue bench port command
  | registration command =>
      exact explains_of_clearings bench port rfl (queue_registration bench port command)
  | session command => exact explains_session bench port command
  | poller command => exact explains_poller bench port command
  | device command => exact explains_device bench port command
  | gamepad command => exact explains_gamepad bench port command

/-- The history of a run can be carried out and leads to the queue. -/
theorem replay?_history (commands : List Command) :
    replay? (bench.adapter.queue port) (history bench port commands) =
      some ((bench.run commands).value.2.adapter.queue port) := by
  induction commands generalizing bench with
  | nil => rfl
  | cons command commands ih =>
      have first : replay? (bench.adapter.queue port) (record bench port command) = _ :=
        explains bench port command
      rw [history, replay?_append, first, Option.bind_some, ih, Bench.value_run_cons]

end Steps

/-- The number of the port that a call of the adapter or of a queue names. -/
def namedPort? : Command → Option Nat
  | .adapter (.update number _) | .adapter (.readState number) => some number
  | .adapter (.isPressed number _) => some number
  | .adapter (.push sample) => some sample.port
  | .queue (.pop number) | .queue (.clear number) | .queue (.enqueue number _) => some number
  | _ => none

theorem perform_of_unknown_port (bench : Bench) {command : Command} {number : Nat}
    (named : namedPort? command = some number) (unknown : 4 ≤ number) :
    (bench.perform command).value.2 = bench := by
  have absent : Port.ofNat? number = none := dif_neg (Nat.not_lt.mpr unknown)
  unfold namedPort? at named
  split at named
  · cases named
    simp [Bench.perform, Bench.performAdapter, Bench.withAdapter, Adapter.update, absent]
  · rfl
  · rfl
  · cases named
    simp [Bench.perform, Bench.performAdapter, Bench.withAdapter, Adapter.push, absent]
  · cases named
    simp [Bench.perform, Bench.performQueue, absent]
  · cases named
    simp [Bench.perform, Bench.performQueue, absent]
  · cases named
    simp [Bench.perform, Bench.performQueue, absent]
  · cases named

/-- After every run, the queue of each port holds exactly the samples accepted there since
its last clearing, in order of acceptance, without as many of the first ones as were popped
since, of which there are never too few.  A call for a port that does not exist changes
nothing. -/
theorem queue_eq_accepted_drop_popped (thresholdMode : ThresholdMode) (defaultDeadzone : Single)
    (commands : List Command) (port : Port) :
    let opening := (Bench.create thresholdMode defaultDeadzone).value
    let bench := (opening.run commands).value.2
    let recent := sinceCleared (history opening port commands)
    (popCount recent ≤ (acceptedSamples recent).length ∧
      bench.adapter.queue port = (acceptedSamples recent).drop (popCount recent)) ∧
    ∀ command number, namedPort? command = some number → 4 ≤ number →
      (bench.perform command).value.2 = bench := by
  intro opening bench recent
  have empty : opening.adapter.queue port = [] := Adapter.queue_initial port
  have replayed := replay?_history opening port commands
  rw [empty] at replayed
  exact ⟨eq_drop_of_replay? replayed,
    fun command number named unknown => perform_of_unknown_port bench named unknown⟩

end QueueHistory

end PadCapture
