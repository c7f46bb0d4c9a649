import PadCapture.Capture.Basic
import PadCapture.Log.Level
import PadCapture.Pad.Sample
import PadCapture.Params.Text
import PadCapture.Params.Value

/-!
# Events

Everything that the program reports about its work, as data.  Operations note
events; their levels and wording are fixed here alone.
-/

namespace PadCapture

inductive Event where
  -- clocks
  | noNativeClock
  | clockStarted (cpuFrequency counterFrequency : UInt32)
  | pauseIgnored (paused : Bool)
  -- parameters
  | parameterUnreadable (key value : String) (fault : Params.ValueFault)
  -- the adapter
  | adapterCreated (ports : Nat)
  | stateForUnknownPort (port : Nat)
  | sampleQueued (sample : Sample)
  | sampleForUnknownPort (port : Nat)
  | sampleRefused (sample : Sample)
  | samplePopped (sample : Sample)
  | staleSamplesCleared (count : Nat)
  | captureEnabled (openSessions : Nat)
  | captureDisabled
  | captureStillOpen (openSessions : Nat)
  | captureNotOpen
  -- sessions and pollers
  | sessionCreated (kind : BindingKind)
  | captureBegun (kind : BindingKind)
  | bindingCaptured (kind : BindingKind) (binding : Params)
  | captureEnding (kind : BindingKind)
  | nothingToBind (sample : Sample)
  | idleSampleIgnored (sample : Sample)
  | axisHeld (half : HalfBinding)
  | axisRefused (axis : Axis) (port : Nat) (held : HalfBinding)
  | halfDiscarded (half : HalfBinding)
  -- devices
  | portOutOfRange (port : Int)
  | axisUnknown (number : Int) (key : String) (default : Axis)
  | directionUnknown (direction : String)
  | axisButtonCreated (port : Nat) (axis : Axis) (positive : Bool)
  | thresholdReplaced (threshold default : Single)
  | bindingNamesNoButton (binding : Params)
  | buttonCreated (port : Nat) (buttons : Buttons)
  | deadzoneNotFinite (binding : Params) (default : Single)
  | stickCreated (port : Nat) (axisX axisY : Axis) (deadzone : Single)
  | deadzoneReplaced (deadzone : Single)
  -- host gamepads
  | gamepadsOpening
  | gamepadsFailed (reason : String)
  | gamepadMapped (name : String) (id port : Nat)
  | gamepadWithoutPort (id : Nat)
  | gamepadAxisUnsupported (axis : String)
  | gamepadDisconnected
  -- configuration
  | configurationLoading (path : String)
  | configurationMissing (path : String)
  | configurationReplaced (reason : String)
  -- scripts
  | scriptChosen (path : String)
  | demoChosen
  | replaySpawned (steps : Nat) (repeats : Bool)
  | stepApplied (port : Nat) (state : PortState)
  | replayCancelled (applied : Nat)
  | replayFinished (applied : Nat)
  | replayExited (applied : Nat)
  -- captures
  | captureTimedOut (kind : BindingKind) (timeout : Nat)
  | sessionClosed (kind : BindingKind)
deriving DecidableEq

namespace Event

def level : Event → Level
  | noNativeClock | clockStarted .. => .debug
  | pauseIgnored .. => .trace
  | parameterUnreadable .. => .warn
  | adapterCreated .. => .info
  | stateForUnknownPort .. | sampleForUnknownPort .. => .warn
  | sampleQueued .. | sampleRefused .. | samplePopped .. => .trace
  | staleSamplesCleared .. | captureStillOpen .. => .debug
  | captureEnabled .. | captureDisabled => .info
  | captureNotOpen => .warn
  | sessionCreated .. => .debug
  | captureBegun .. | bindingCaptured .. | captureEnding .. => .info
  | nothingToBind .. | idleSampleIgnored .. | axisRefused .. => .trace
  | axisHeld .. | halfDiscarded .. => .debug
  | portOutOfRange .. | axisUnknown .. | thresholdReplaced .. => .warn
  | bindingNamesNoButton .. | deadzoneNotFinite .. | deadzoneReplaced .. => .warn
  | directionUnknown .. => .error
  | axisButtonCreated .. | buttonCreated .. | stickCreated .. => .debug
  | gamepadsOpening | gamepadMapped .. => .info
  | gamepadsFailed .. => .error
  | gamepadWithoutPort .. | gamepadAxisUnsupported .. => .debug
  | gamepadDisconnected => .warn
  | configurationLoading .. => .debug
  | configurationMissing .. => .info
  | configurationReplaced .. => .warn
  | scriptChosen .. | demoChosen | replaySpawned .. => .info
  | stepApplied .. | replayExited .. => .debug
  | replayCancelled .. | replayFinished .. => .info
  | captureTimedOut .. => .warn
  | sessionClosed .. => .debug

def directionSign (positive : Bool) : String := if positive then "+" else "-"

def message : Event → String
  | noNativeClock => "No native clock available, using standard wall clock"
  | clockStarted cpuFrequency counterFrequency =>
      s!"Standard wall clock created: cpu={cpuFrequency} Hz, clock={counterFrequency} Hz"
  | pauseIgnored paused => s!"Ignoring pause({paused}) on standard wall clock"
  | parameterUnreadable key value fault =>
      "Parameter " ++ key ++ "=" ++ Text.quoted value ++ " is not valid (" ++ fault.message ++
        "), using default"
  | adapterCreated ports => s!"Creating GameCube adapter context with {ports} ports"
  | stateForUnknownPort port => s!"Ignoring state for unknown port {port}"
  | sampleQueued sample => "Queueing capture sample " ++ sample.text
  | sampleForUnknownPort port => s!"Dropping sample for unknown port {port}"
  | sampleRefused sample => "Not configuring, dropping sample " ++ sample.text
  | samplePopped sample => "Popped sample: " ++ sample.text
  | staleSamplesCleared count => s!"Cleared {count} stale capture samples"
  | captureEnabled openSessions => s!"Capture mode enabled ({openSessions} open sessions)"
  | captureDisabled => "Capture mode disabled"
  | captureStillOpen openSessions => s!"Capture session closed, {openSessions} still open"
  | captureNotOpen => "end_configuration called without an open capture session"
  | sessionCreated kind => "Creating " ++ kind.name ++ " capture session"
  | captureBegun kind => "Beginning " ++ kind.name ++ " capture"
  | bindingCaptured kind binding => "Captured " ++ kind.name ++ " binding: " ++ binding.text
  | captureEnding kind => "Ending " ++ kind.name ++ " capture"
  | nothingToBind sample => "Nothing to bind in " ++ sample.text
  | idleSampleIgnored sample => "Ignoring idle axis sample " ++ sample.text
  | axisHeld half => "Holding " ++ half.axis.name ++ s!" on port {half.port} as x axis"
  | axisRefused axis port held =>
      "Dropping " ++ axis.name ++ s!" on port {port} while holding " ++ held.axis.name ++
        s!" on port {held.port}"
  | halfDiscarded half => "Discarding half-bound " ++ half.axis.name ++ s!" on port {half.port}"
  | portOutOfRange port => s!"Port {port} out of range, using port 0"
  | axisUnknown number key default =>
      s!"Unknown axis {number} for {key}, using " ++ default.name
  | directionUnknown direction =>
      "Unknown direction " ++ Text.quoted direction ++ ", assuming +"
  | axisButtonCreated port axis positive =>
      s!"Creating axis button: port={port}, axis=" ++ axis.name ++ ", direction=" ++
        directionSign positive
  | thresholdReplaced threshold default =>
      "Threshold " ++ threshold.text .plain ++ " is not a number, using " ++ default.text .plain
  | bindingNamesNoButton binding => "Binding " ++ binding.text ++ " names no known button"
  | buttonCreated port buttons =>
      s!"Creating button: port={port}, button=" ++ buttons.text
  | deadzoneNotFinite binding default =>
      "Binding " ++ binding.text ++ " has a non-finite deadzone, using " ++ default.text .plain
  | stickCreated port axisX axisY deadzone =>
      s!"Creating analog stick: port={port}, x=" ++ axisX.name ++ ", y=" ++ axisY.name ++
        ", deadzone=" ++ deadzone.text .plain
  | deadzoneReplaced deadzone =>
      "Deadzone " ++ deadzone.text .plain ++ " is not a number, using 0"
  | gamepadsOpening => "Initializing gilrs controller interface"
  | gamepadsFailed reason => "Failed to initialize gilrs: " ++ reason
  | gamepadMapped name id port => s!"Gamepad {name} ({id}) mapped to port {port}"
  | gamepadWithoutPort id => s!"No free port for gamepad {id}"
  | gamepadAxisUnsupported axis => "Ignoring unsupported axis: " ++ axis
  | gamepadDisconnected => "Gamepad disconnected, releasing its port state"
  | configurationLoading path => "Loading configuration from " ++ path
  | configurationMissing path => "No configuration at " ++ path ++ ", writing defaults"
  | configurationReplaced reason => "Falling back to default configuration: " ++ reason
  | scriptChosen path => "Replaying pad script " ++ path
  | demoChosen => "No pad script configured, replaying the built-in demo"
  | replaySpawned steps repeats =>
      s!"Spawning scripted producer with {steps} steps (repeat: {repeats})"
  | stepApplied port state => s!"Script step on port {port}: " ++ state.text
  | replayCancelled applied => s!"Script replay cancelled after {applied} steps"
  | replayFinished applied => s!"Script replay finished after {applied} steps"
  | replayExited applied => s!"Scripted producer exited after {applied} steps"
  | captureTimedOut kind timeout => "No " ++ kind.name ++ s!" binding captured within {timeout}ms"
  | sessionClosed kind => kind.name ++ " session closed"

def line (event : Event) : String := event.level.name ++ " " ++ event.message

end Event

end PadCapture
