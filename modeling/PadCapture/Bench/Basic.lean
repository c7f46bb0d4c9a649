import PadCapture.Bench.Registry
import PadCapture.Capture.Session
import PadCapture.Device.Button
import PadCapture.Device.Stick
import PadCapture.Gamepad.Source

/-!
# The bench

One adapter together with everything that uses it: registrations that hold
capture mode open, capture sessions, bare analog pollers, devices and a source
of host gamepads.  All but the last are kept under names.  Commands change the
bench and are answered with replies.
-/

namespace PadCapture

structure Bench where
  adapter : Adapter
  thresholdMode : ThresholdMode
  defaultDeadzone : Single
  registrations : Registry Registration
  sessions : Registry Session
  pollers : Registry Poller
  buttons : Registry ButtonDevice
  sticks : Registry Stick
  gamepads : Option Gamepad.Source

inductive AdapterCommand where
  | update (port : Nat) (state : PortState)
  | push (sample : Sample)
  | beginCapture
  | endCapture
  | clearQueues
  | isConfiguring
  | readState (port : Nat)
  | readStates
  | isPressed (port : Nat) (buttons : Buttons)

inductive QueueCommand where
  | pop (port : Nat)
  | clear (port : Nat)
  | enqueue (port : Nat) (sample : Sample)
  | drain

inductive RegistrationCommand where
  | hold (name : String)
  | release (name : String)

inductive SessionCommand where
  | launch (name : String) (kind : BindingKind)
  | create (name : String) (kind : BindingKind)
  | start (name : String)
  | stop (name : String)
  | discard (name : String)
  | kind (name : String)
  | next (name : String)

inductive PollerCommand where
  | create (name : String)
  | next (name : String)
  | reset (name : String)

inductive DeviceCommand where
  | buttonOfText (name : String) (text : String)
  | buttonOfBinding (name : String) (binding : Params)
  | stickOfText (name : String) (text : String)
  | stickOfBinding (name : String) (binding : Params)
  | createMask (name : String) (port : Nat) (buttons : Buttons)
  | createAxisButton (name : String) (port : Nat) (axis : Axis) (threshold : Single)
      (positive : Bool) (mode : ThresholdMode)
  | createStick (name : String) (port : Nat) (axisX axisY : Axis) (deadzone : Single)
  | buttonStatus (name : String)
  | stickStatus (name : String)

inductive GamepadCommand where
  | connect (connected : List Nat)
  | refuse (reason : String)
  | report (reports : List Gamepad.Report)

inductive Command where
  | adapter (command : AdapterCommand)
  | queue (command : QueueCommand)
  | registration (command : RegistrationCommand)
  | session (command : SessionCommand)
  | poller (command : PollerCommand)
  | device (command : DeviceCommand)
  | gamepad (command : GamepadCommand)

inductive Reply where
  | configuring (isOn : Bool)
  | nothing
  | noQueue
  | state (state : Option PortState)
  | states (states : List PortState)
  | pressed (status : Option Bool)
  | popped (sample : Option Sample)
  | cleared (count : Option Nat)
  | drained (queues : List (Port × List Sample))
  | kind (kind : Option BindingKind)
  | binding (binding : Option Params)
  | polled (binding : Option Params) (held : Option HalfBinding)
  | buttonStatus (status : Option Bool)
  | stickStatus (vector : Option StickVector)
  | handled (count : Nat) (states : List PortState)
  | badParameters (fault : Params.Fault)
  | gamepadsRefused (reason : String)

namespace Bench

def create (thresholdMode : ThresholdMode) (defaultDeadzone : Single) : Logged Bench := do
  let adapter ← Adapter.create
  return ⟨adapter, thresholdMode, defaultDeadzone, .empty, .empty, .empty, .empty, .empty, none⟩

def states (bench : Bench) : List PortState := Port.all.map bench.adapter.state

/-- The bench with a changed adapter, answered by its capture mode. -/
def withAdapter (bench : Bench) (adapter : Adapter) : Reply × Bench :=
  (.configuring adapter.isConfiguring, { bench with adapter })

end Bench

end PadCapture
