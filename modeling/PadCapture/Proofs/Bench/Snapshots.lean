import PadCapture.Proofs.Bench.Sessions
import PadCapture.Proofs.Capture.Drain
import PadCapture.Proofs.Gamepad.Published

/-!
# Live states and capture

A port shows the state of its last update, and nothing else reaches it: sessions,
registrations and pollers work on the queues alone.  What devices read is therefore decided
by the updates of their own port.
-/

namespace PadCapture

namespace Bench

/-- The updates that a command makes, each a number of a port and a state, in order. -/
def updates (bench : Bench) : Command → List (Nat × PortState)
  | .adapter (.update number shown) => [(number, shown)]
  | .gamepad (.report reports) =>
      match bench.gamepads with
      | some source => (source.published reports).map fun entry => (entry.1.val, entry.2)
      | none => []
  | _ => []

/-- The updates of a whole run. -/
def runUpdates (bench : Bench) : List Command → List (Nat × PortState)
  | [] => []
  | command :: commands =>
      bench.updates command ++ runUpdates (bench.perform command).value.2 commands

end Bench

/-- The states that updates give the port, in order. -/
def Port.statesIn (port : Port) (updates : List (Nat × PortState)) : List PortState :=
  updates.filterMap fun update => if update.1 = port.val then some update.2 else none

/-- What some updates leave a port showing that showed `before`. -/
def Port.shownAfter (port : Port) (before : PortState) (updates : List (Nat × PortState)) :
    PortState :=
  (port.statesIn updates).getLast?.getD before

namespace Port

variable (port : Port) (before : PortState)

theorem shownAfter_append (updates more : List (Nat × PortState)) :
    port.shownAfter before (updates ++ more) =
      port.shownAfter (port.shownAfter before updates) more := by
  simp only [shownAfter, statesIn, List.filterMap_append, List.getLast?_append]
  cases (List.filterMap _ more).getLast? <;> rfl

theorem shownAfter_singleton (number : Nat) (shown : PortState) :
    port.shownAfter before [(number, shown)] = if number = port.val then shown else before := by
  by_cases own : number = port.val <;> simp [shownAfter, statesIn, own]

theorem shownAfter_cons (update : Nat × PortState) (updates : List (Nat × PortState)) :
    port.shownAfter before (update :: updates) =
      port.shownAfter (if update.1 = port.val then update.2 else before) updates := by
  rw [← shownAfter_singleton, ← shownAfter_append]
  rfl

end Port

theorem Adapter.state_foldl_update (adapter : Adapter) (port : Port)
    (entries : List (Port × PortState)) :
    (entries.foldl (fun adapter entry => (adapter.update entry.1.val entry.2).value)
      adapter).state port =
        port.shownAfter (adapter.state port)
          (entries.map fun entry => (entry.1.val, entry.2)) := by
  induction entries generalizing adapter with
  | nil => rfl
  | cons entry entries ih =>
      rw [List.foldl_cons, ih, List.map_cons, Port.shownAfter_cons, state_update]

/-- No port shows another state, and the source of gamepads is the same. -/
structure Unwritten (before after : Bench) : Prop where
  state : ∀ port, after.adapter.state port = before.adapter.state port
  gamepads : after.gamepads = before.gamepads

namespace Bench

section Unwritten

variable (bench : Bench)

theorem unwritten_adapter {command : AdapterCommand}
    (noUpdate : ∀ number shown, command ≠ .update number shown) :
    Unwritten bench (bench.performAdapter command).value.2 := by
  cases command with
  | update number shown => exact absurd rfl (noUpdate number shown)
  | push sample => exact ⟨fun port => bench.adapter.state_push port sample, rfl⟩
  | beginCapture => exact ⟨fun port => bench.adapter.state_beginCapture port, rfl⟩
  | endCapture => exact ⟨fun port => bench.adapter.state_endCapture port, rfl⟩
  | clearQueues => exact ⟨fun port => bench.adapter.state_emptied port, rfl⟩
  | isConfiguring | readState | readStates | isPressed => exact ⟨fun _ => rfl, rfl⟩

theorem state_takeQueues (adapter : Adapter) (ports : List Port) (port : Port) :
    (takeQueues adapter ports).value.2.state port = adapter.state port := by
  induction ports generalizing adapter with
  | nil => rfl
  | cons first ports ih => exact (ih (adapter.setQueue first [])).trans (adapter.state_setQueue ..)

theorem unwritten_queue (command : QueueCommand) :
    Unwritten bench (bench.performQueue command).value.2 := by
  cases command with
  | pop number =>
      rw [performQueue]
      cases Port.ofNat? number with
      | none => exact ⟨fun _ => rfl, rfl⟩
      | some slot =>
          refine ⟨fun port => ?_, rfl⟩
          change (bench.adapter.pop slot).value.2.state port = _
          unfold Adapter.pop
          split
          · rfl
          · exact bench.adapter.state_setQueue ..
  | clear number =>
      rw [performQueue]
      cases Port.ofNat? number with
      | none => exact ⟨fun _ => rfl, rfl⟩
      | some slot => exact ⟨fun _ => bench.adapter.state_setQueue .., rfl⟩
  | enqueue number sample =>
      rw [performQueue]
      cases Port.ofNat? number with
      | none => exact ⟨fun _ => rfl, rfl⟩
      | some slot => exact ⟨fun _ => bench.adapter.state_enqueue .., rfl⟩
  | drain => exact ⟨state_takeQueues bench.adapter Port.all, rfl⟩

theorem unwritten_registration (command : RegistrationCommand) :
    Unwritten bench (bench.performRegistration command).value.2 := by
  cases command with
  | hold name =>
      rw [hold_effect]
      refine ⟨fun port => ?_, rfl⟩
      dsimp only
      split <;> simp
  | release name =>
      rw [release_effect]
      refine ⟨fun port => ?_, rfl⟩
      dsimp only
      split <;> simp

theorem state_dropSession (name : String) (adapter : Adapter) (port : Port) :
    (dropSession adapter (bench.sessions.find? name)).value.state port = adapter.state port := by
  rw [value_dropSession]
  split <;> simp

theorem unwritten_session (command : SessionCommand) :
    Unwritten bench (bench.performSession command).value.2 := by
  cases command with
  | launch name kind =>
      rw [launch_result]
      exact ⟨fun port => (bench.state_dropSession name _ port).trans (by simp), rfl⟩
  | create name kind =>
      rw [create_result]
      exact ⟨fun port => bench.state_dropSession name _ port, rfl⟩
  | start name =>
      cases found : bench.sessionIn? .idle name with
      | none => rw [start_without_effect bench name found]; exact ⟨fun _ => rfl, rfl⟩
      | some session =>
          rw [start_effect bench name found]
          exact ⟨fun port => bench.adapter.state_beginCapture port, rfl⟩
  | stop name =>
      cases found : bench.sessionIn? .capturing name with
      | none => rw [stop_without_effect bench name found]; exact ⟨fun _ => rfl, rfl⟩
      | some session =>
          rw [stop_effect bench name found]
          exact ⟨fun port => bench.adapter.state_endCapture port, rfl⟩
  | discard name =>
      rw [discard_result]
      exact ⟨fun port => bench.state_dropSession name _ port, rfl⟩
  | kind name => exact ⟨fun _ => rfl, rfl⟩
  | next name =>
      cases found : bench.sessionIn? .capturing name with
      | none => rw [next_without_effect bench name found]; exact ⟨fun _ => rfl, rfl⟩
      | some session =>
          rw [next_effect bench name found]
          exact ⟨fun port => session.poller.state_next bench.adapter port, rfl⟩

theorem unwritten_poller (command : PollerCommand) :
    Unwritten bench (bench.performPoller command).value.2 := by
  cases command with
  | create name => exact ⟨fun _ => rfl, rfl⟩
  | next name =>
      rw [performPoller]
      cases bench.pollers.find? name with
      | none => exact ⟨fun _ => rfl, rfl⟩
      | some poller => exact ⟨fun port => poller.state_next bench.adapter port, rfl⟩
  | reset name =>
      rw [performPoller]
      cases bench.pollers.find? name <;> exact ⟨fun _ => rfl, rfl⟩

theorem unwritten_device (command : DeviceCommand) :
    Unwritten bench (bench.performDevice command).value.2 := by
  cases command with
  | buttonOfText name text | stickOfText name text =>
      rw [performDevice]
      cases Params.parse text <;> exact ⟨fun _ => rfl, rfl⟩
  | _ => exact ⟨fun _ => rfl, rfl⟩

theorem state_perform (command : Command) (port : Port) :
    (bench.perform command).value.2.adapter.state port =
      port.shownAfter (bench.adapter.state port) (bench.updates command) := by
  cases command with
  | adapter command =>
      cases command with
      | update number shown =>
          rw [updates, Port.shownAfter_singleton]
          exact bench.adapter.state_update port number shown
      | _ => exact (bench.unwritten_adapter (by simp)).state port
  | queue command => exact (bench.unwritten_queue command).state port
  | registration command => exact (bench.unwritten_registration command).state port
  | session command => exact (bench.unwritten_session command).state port
  | poller command => exact (bench.unwritten_poller command).state port
  | device command => exact (bench.unwritten_device command).state port
  | gamepad command =>
      cases command with
      | connect | refuse => rfl
      | report reports =>
          rw [updates]
          change (bench.performGamepad (.report reports)).value.2.adapter.state port = _
          rw [performGamepad]
          cases bench.gamepads with
          | none => rfl
          | some source =>
              change (source.poll bench.adapter reports).value.adapter.state port = _
              rw [Gamepad.Source.adapter_poll, Adapter.state_foldl_update]

/-- A port shows the state of its last update in the run. -/
theorem state_run (commands : List Command) (port : Port) :
    (bench.run commands).value.2.adapter.state port =
      port.shownAfter (bench.adapter.state port) (bench.runUpdates commands) := by
  induction commands generalizing bench with
  | nil => rfl
  | cons command commands ih =>
      rw [value_run_cons, runUpdates, Port.shownAfter_append, ← state_perform]
      exact ih _

end Unwritten

end Bench

namespace ButtonDevice

/-- The number of the port that the device reads. -/
def port : ButtonDevice → Nat
  | .mask port _ => port
  | .axis button => button.port

/-- Of an adapter a button device knows only the state of its port. -/
theorem status_congr (device : ButtonDevice) {first second : Adapter}
    (same : first.state? device.port = second.state? device.port) :
    device.status first = device.status second := by
  cases device with
  | mask number buttons =>
      rw [port] at same
      simp only [status, same]
  | axis button =>
      rw [port] at same
      simp only [status, AxisButton.status, same]

theorem status_of_unknown_port (device : ButtonDevice) {adapter : Adapter}
    (unknown : adapter.state? device.port = none) : device.status adapter = false := by
  cases device with
  | mask number buttons =>
      rw [port] at unknown
      simp only [status, unknown]
  | axis button =>
      rw [port] at unknown
      simp only [status, AxisButton.status, unknown]

end ButtonDevice

/-- Of an adapter a stick knows only the state of its port, which is idle if there is no such
port. -/
theorem Stick.status_congr (stick : Stick) {other : Stick} {first second : Adapter}
    (same : (first.state? stick.port).getD .idle = (second.state? other.port).getD .idle)
    (alike : { stick with port := other.port } = other) :
    stick.status first = other.status second := by
  rw [← alike]
  exact congrArg stick.vectorOf same

namespace Adapter

theorem state?_val (adapter : Adapter) (port : Port) :
    adapter.state? port.val = some (adapter.state port) := by
  rw [state?, Port.ofNat?_val]
  rfl

theorem state?_of_count_le (adapter : Adapter) {number : Nat} (beyond : Port.count ≤ number) :
    adapter.state? number = none := by
  have unknown : ¬ number < 4 := Nat.not_lt.mpr beyond
  simp [state?, Port.ofNat?, unknown]

end Adapter

/-- After every run a port shows the state of its last update in the run, or the idle state.
Two runs with the same updates of a port, whatever else they do, make no difference to any
device on this port; and devices on a port that does not exist are not pressed and read an
idle stick. -/
theorem live_readings_follow_updates (thresholdMode : ThresholdMode) (defaultDeadzone : Single)
    (commands : List Command) (port : Port) :
    let opening := (Bench.create thresholdMode defaultDeadzone).value
    let adapter := (opening.run commands).value.2.adapter
    adapter.state? port.val = some (port.shownAfter .idle (opening.runUpdates commands)) ∧
    (∀ otherMode otherDeadzone otherCommands,
      let otherOpening := (Bench.create otherMode otherDeadzone).value
      let otherAdapter := (otherOpening.run otherCommands).value.2.adapter
      port.statesIn (otherOpening.runUpdates otherCommands) =
          port.statesIn (opening.runUpdates commands) →
        (∀ device : ButtonDevice, device.port = port.val →
          device.status otherAdapter = device.status adapter) ∧
        ∀ stick : Stick, stick.port = port.val →
          stick.status otherAdapter = stick.status adapter ∧
            ∀ direction, stick.directionStatus otherAdapter direction =
              stick.directionStatus adapter direction) ∧
    ∀ anyAdapter : Adapter,
      (∀ device : ButtonDevice, Port.count ≤ device.port → device.status anyAdapter = false) ∧
      ∀ (stick : Stick) (resting : Adapter), Port.count ≤ stick.port →
        resting.state port = .idle →
          let idle : Stick := { stick with port := port.val }
          stick.status anyAdapter = idle.status resting ∧
            ∀ direction, stick.directionStatus anyAdapter direction =
              idle.directionStatus resting direction := by
  intro opening adapter
  have shown (mode : ThresholdMode) (deadzone : Single) (commands : List Command) :
      (((Bench.create mode deadzone).value.run commands).value.2.adapter).state? port.val =
        some (port.shownAfter .idle ((Bench.create mode deadzone).value.runUpdates commands)) := by
    rw [Adapter.state?_val, Bench.state_run]
    congr
    exact Adapter.state_initial port
  refine ⟨shown _ _ _, ?_, ?_⟩
  · intro otherMode otherDeadzone otherCommands otherOpening otherAdapter sameUpdates
    have same : otherAdapter.state? port.val = adapter.state? port.val := by
      rw [shown, shown, Port.shownAfter, sameUpdates]
      rfl
    refine ⟨fun device onPort => device.status_congr (onPort ▸ same), fun stick onPort => ?_⟩
    have status : stick.status otherAdapter = stick.status adapter :=
      stick.status_congr (by rw [onPort, same]) rfl
    exact ⟨status, fun direction => congrArg (Stick.points · direction) status⟩
  · intro anyAdapter
    refine ⟨fun device beyond =>
      device.status_of_unknown_port (anyAdapter.state?_of_count_le beyond), ?_⟩
    intro stick resting beyond idleState idle
    have status : stick.status anyAdapter = idle.status resting := by
      apply stick.status_congr _ rfl
      rw [anyAdapter.state?_of_count_le beyond, resting.state?_val, idleState]
      rfl
    exact ⟨status, fun direction => congrArg (Stick.points · direction) status⟩

/-- A run that captures the A button of port one. -/
def capturingRun : List Command :=
  [.session (.launch "own" .button), .adapter (.update 1 { PortState.idle with buttons := .a }),
    .session (.next "own")]

/-- A run that captures nothing, with the same update of port one. -/
def plainRun : List Command :=
  [.adapter (.update 0 .idle), .adapter (.update 1 { PortState.idle with buttons := .a })]

/-- After both runs the button of port one is pressed. -/
theorem live_readings_follow_updates_of_capture :
    (ButtonDevice.mask 1 .a).status
        ((Bench.create .fixed (.zero false)).value.run capturingRun).value.2.adapter =
      (ButtonDevice.mask 1 .a).status
        ((Bench.create .stored (.zero false)).value.run plainRun).value.2.adapter ∧
    (ButtonDevice.mask 1 .a).status
      ((Bench.create .stored (.zero false)).value.run plainRun).value.2.adapter = true := by
  have follows := live_readings_follow_updates .stored (.zero false) plainRun 1
  have sameUpdates : Port.statesIn 1 ((Bench.create .fixed (.zero false)).value.runUpdates
      capturingRun) = Port.statesIn 1 ((Bench.create .stored (.zero false)).value.runUpdates
        plainRun) := by
    simp [capturingRun, plainRun, Bench.runUpdates, Bench.updates, Port.statesIn]
  have same := (follows.2.1 .fixed (.zero false) capturingRun sameUpdates).1
  refine ⟨same (.mask 1 .a) rfl, ?_⟩
  decide +kernel

end PadCapture
