import PadCapture.Adapter.Basic
import PadCapture.Gamepad.Event

/-!
# Host gamepads as ports

The first four gamepads that appear own the ports in order, for good.  The
source keeps a state for each port and publishes it after every change.
-/

namespace PadCapture.Gamepad

/-- The owners of the ports, in order of ports, and the state of each port. -/
structure Source where
  owners : List Nat
  states : PerPort PortState
deriving DecidableEq

def Change.apply? (change : Change) (state : PortState) : Logged (Option PortState) :=
  match change with
  | .buttonPressed button =>
      return button.padButton?.map fun pressed =>
        { state with buttons := state.buttons.union pressed }
  | .buttonReleased button =>
      return button.padButton?.map fun released =>
        { state with buttons := state.buttons.without released }
  | .buttonChanged button value =>
      return button.triggerAxis?.map fun axis => state.setAxis axis (axisByte value)
  | .axisChanged hostAxis value =>
      match hostAxis.padAxis? with
      | some axis => return some (state.setAxis axis (axisByte value))
      | none => do
          Logged.note (.gamepadAxisUnsupported hostAxis.name)
          return none
  | .disconnected => do
      Logged.note .gamepadDisconnected
      return some .idle
  | .buttonRepeated _ | .connected | .dropped => return none

namespace Source

def vacant : Source := ⟨[], .uniform .idle⟩

def state (source : Source) (port : Port) : PortState := source.states.get port

def setState (source : Source) (port : Port) (state : PortState) : Source :=
  { source with states := source.states.set port state }

def port? (source : Source) (gamepad : Nat) : Option Port :=
  if gamepad ∈ source.owners then Port.ofNat? (source.owners.idxOf gamepad) else none

/-- The port of a gamepad, where a new gamepad gets the next free one. -/
def claimPort (source : Source) (gamepad : Nat) : Logged (Option Port × Source) :=
  match source.port? gamepad with
  | some port => return (some port, source)
  | none =>
      match Port.ofNat? source.owners.length with
      | some port => return (some port, { source with owners := source.owners ++ [gamepad] })
      | none => do
          Logged.note (.gamepadWithoutPort gamepad)
          return (none, source)

def gamepadName (gamepad : Nat) : String := "pad" ++ Numeral.natText gamepad

/-- Give ports to the gamepads that are connected at the start. -/
def attach (source : Source) : List Nat → Logged Source
  | [] => return source
  | gamepad :: rest => do
      let (port, source) ← source.claimPort gamepad
      match port with
      | some port =>
          Logged.note (.gamepadMapped (gamepadName gamepad) gamepad port.val)
          attach source rest
      | none => attach source rest

/-- Open the host's gamepads, of which the given ones are connected. -/
def connect (connected : List Nat) : Logged Source := do
  Logged.note .gamepadsOpening
  vacant.attach connected

def refuse (reason : String) : Logged Unit := do
  Logged.note .gamepadsOpening
  Logged.note (.gamepadsFailed reason)

def refusalMessage (reason : String) : String := "Failed to initialize gilrs: " ++ reason

structure Outcome where
  source : Source
  adapter : Adapter
  handled : Nat

/-- Handle one report: publish the state of its port if it changes. -/
def handle (source : Source) (adapter : Adapter) (report : Report) : Logged Outcome := do
  let (port, source) ← source.claimPort report.gamepad
  match port with
  | none => return ⟨source, adapter, 0⟩
  | some port =>
      let changed ← report.change.apply? (source.state port)
      match changed with
      | none => return ⟨source, adapter, 0⟩
      | some state =>
          let adapter ← adapter.update port.val state
          return ⟨source.setState port state, adapter, 1⟩

def poll (source : Source) (adapter : Adapter) : List Report → Logged Outcome
  | [] => return ⟨source, adapter, 0⟩
  | report :: rest => do
      let first ← source.handle adapter report
      let others ← first.source.poll first.adapter rest
      return { others with handled := first.handled + others.handled }

end Source

end PadCapture.Gamepad
