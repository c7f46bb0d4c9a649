import PadCapture.Bench.Basic

/-!
# Carrying out commands

A value that is kept under a name already in use replaces the older one, which
is given up only after the new one exists.  A command for a name that is not in
use does nothing.
-/

namespace PadCapture.Bench

def performAdapter (bench : Bench) : AdapterCommand → Logged (Reply × Bench)
  | .update port state => do return bench.withAdapter (← bench.adapter.update port state)
  | .push sample => do return bench.withAdapter (← bench.adapter.push sample)
  | .beginCapture => do return bench.withAdapter (← bench.adapter.beginCapture)
  | .endCapture => do return bench.withAdapter (← bench.adapter.endCapture)
  | .clearQueues => do return bench.withAdapter (← bench.adapter.clearQueues)
  | .isConfiguring => return bench.withAdapter bench.adapter
  | .readState port => return (.state (bench.adapter.state? port), bench)
  | .readStates => return (.states bench.states, bench)
  | .isPressed port buttons =>
      return (.pressed ((bench.adapter.state? port).map (·.isPressed buttons)), bench)

def takeQueues (adapter : Adapter) : List Port → Logged (List (Port × List Sample) × Adapter)
  | [] => return ([], adapter)
  | port :: ports => do
      let (samples, adapter) ← adapter.takeAll port
      let (others, adapter) ← takeQueues adapter ports
      return ((port, samples) :: others, adapter)

def performQueue (bench : Bench) : QueueCommand → Logged (Reply × Bench)
  | .pop port =>
      match Port.ofNat? port with
      | none => return (.noQueue, bench)
      | some port => do
          let (sample, adapter) ← bench.adapter.pop port
          return (.popped sample, { bench with adapter })
  | .clear port =>
      match Port.ofNat? port with
      | none => return (.cleared none, bench)
      | some port => do
          let (samples, adapter) ← bench.adapter.takeAll port
          return (.cleared (some samples.length), { bench with adapter })
  | .enqueue port sample =>
      match Port.ofNat? port with
      | none => return (.noQueue, bench)
      | some port => return bench.withAdapter (bench.adapter.enqueue port sample)
  | .drain => do
      let (queues, adapter) ← takeQueues bench.adapter Port.all
      return (.drained queues, { bench with adapter })

def performRegistration (bench : Bench) : RegistrationCommand → Logged (Reply × Bench)
  | .hold name => do
      let (registration, opened) ← Registration.acquire bench.adapter
      let adapter ← Registration.drop (bench.registrations.find? name) opened
      return withAdapter
        { bench with registrations := bench.registrations.put name registration } adapter
  | .release name => do
      let adapter ← Registration.drop (bench.registrations.find? name) bench.adapter
      return withAdapter { bench with registrations := bench.registrations.remove name } adapter

def dropSession (adapter : Adapter) (old : Option Session) : Logged Adapter :=
  match old with
  | some session => session.discard adapter
  | none => return adapter

def keepSession (bench : Bench) (name : String) (session : Session) (adapter : Adapter) :
    Logged (Reply × Bench) := do
  let adapter ← dropSession adapter (bench.sessions.find? name)
  return withAdapter { bench with sessions := bench.sessions.put name session } adapter

def sessionIn? (bench : Bench) (phase : Session.Phase) (name : String) : Option Session :=
  match bench.sessions.find? name with
  | some session => if session.phase = phase then some session else none
  | none => none

def performSession (bench : Bench) : SessionCommand → Logged (Reply × Bench)
  | .launch name kind => do
      let (session, adapter) ← Session.launch kind bench.adapter
      bench.keepSession name session adapter
  | .create name kind => do
      let session ← Session.create kind
      bench.keepSession name session bench.adapter
  | .start name =>
      match bench.sessionIn? .idle name with
      | none => return bench.withAdapter bench.adapter
      | some session => do
          let (session, adapter) ← session.start bench.adapter
          return withAdapter { bench with sessions := bench.sessions.put name session } adapter
  | .stop name =>
      match bench.sessionIn? .capturing name with
      | none => return bench.withAdapter bench.adapter
      | some session => do
          let (session, adapter) ← session.stop bench.adapter
          return withAdapter { bench with sessions := bench.sessions.put name session } adapter
  | .discard name => do
      let adapter ← dropSession bench.adapter (bench.sessions.find? name)
      return withAdapter { bench with sessions := bench.sessions.remove name } adapter
  | .kind name => return (.kind ((bench.sessions.find? name).map Session.kind), bench)
  | .next name =>
      match bench.sessionIn? .capturing name with
      | none => return (.binding none, bench)
      | some session => do
          let (session, binding, adapter) ← session.next bench.adapter
          return (.binding binding,
            { bench with adapter, sessions := bench.sessions.put name session })

def performPoller (bench : Bench) : PollerCommand → Logged (Reply × Bench)
  | .create name =>
      return withAdapter { bench with pollers := bench.pollers.put name (.fresh .analog) }
        bench.adapter
  | .next name =>
      match bench.pollers.find? name with
      | none => return (.nothing, bench)
      | some poller => do
          let outcome ← poller.next bench.adapter
          return (.polled outcome.binding outcome.poller.held,
            { bench with
              adapter := outcome.rest, pollers := bench.pollers.put name outcome.poller })
  | .reset name =>
      match bench.pollers.find? name with
      | none => return (.nothing, bench)
      | some poller => do
          let poller ← poller.reset
          return (.polled none poller.held,
            { bench with pollers := bench.pollers.put name poller })

def keepButton (bench : Bench) (name : String) (binding : Params) : Logged (Reply × Bench) := do
  let device ← ButtonDevice.ofBinding bench.thresholdMode binding
  return withAdapter { bench with buttons := bench.buttons.put name device } bench.adapter

def keepStick (bench : Bench) (name : String) (binding : Params) : Logged (Reply × Bench) := do
  let stick ← Stick.ofBinding bench.defaultDeadzone binding
  return withAdapter { bench with sticks := bench.sticks.put name stick } bench.adapter

def performDevice (bench : Bench) : DeviceCommand → Logged (Reply × Bench)
  | .buttonOfText name text =>
      match Params.parse text with
      | .ok binding => bench.keepButton name binding
      | .error fault => return (.badParameters fault, bench)
  | .buttonOfBinding name binding => bench.keepButton name binding
  | .stickOfText name text =>
      match Params.parse text with
      | .ok binding => bench.keepStick name binding
      | .error fault => return (.badParameters fault, bench)
  | .stickOfBinding name binding => bench.keepStick name binding
  | .createMask name port buttons =>
      return (.nothing, { bench with buttons := bench.buttons.put name (.mask port buttons) })
  | .createAxisButton name port axis threshold positive mode => do
      let button ← AxisButton.create port axis threshold positive mode
      return (.nothing, { bench with buttons := bench.buttons.put name (.axis button) })
  | .createStick name port axisX axisY deadzone => do
      let stick ← Stick.create port axisX axisY deadzone
      return (.nothing, { bench with sticks := bench.sticks.put name stick })
  | .buttonStatus name =>
      return (.buttonStatus ((bench.buttons.find? name).map (·.status bench.adapter)), bench)
  | .stickStatus name =>
      return (.stickStatus ((bench.sticks.find? name).map (·.status bench.adapter)), bench)

def performGamepad (bench : Bench) : GamepadCommand → Logged (Reply × Bench)
  | .connect connected => do
      let source ← Gamepad.Source.connect connected
      return withAdapter { bench with gamepads := some source } bench.adapter
  | .refuse reason => do
      Gamepad.Source.refuse reason
      return (.gamepadsRefused reason, bench)
  | .report reports =>
      match bench.gamepads with
      | none => return (.nothing, bench)
      | some source => do
          let outcome ← source.poll bench.adapter reports
          let bench := { bench with adapter := outcome.adapter, gamepads := some outcome.source }
          return (.handled outcome.handled bench.states, bench)

def perform (bench : Bench) : Command → Logged (Reply × Bench)
  | .adapter command => bench.performAdapter command
  | .queue command => bench.performQueue command
  | .registration command => bench.performRegistration command
  | .session command => bench.performSession command
  | .poller command => bench.performPoller command
  | .device command => bench.performDevice command
  | .gamepad command => bench.performGamepad command

def run (bench : Bench) : List Command → Logged (List Reply × Bench)
  | [] => return ([], bench)
  | command :: rest => do
      let (reply, bench) ← bench.perform command
      let (replies, bench) ← run bench rest
      return (reply :: replies, bench)

end PadCapture.Bench
