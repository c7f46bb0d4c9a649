import PadCapture.Capture.Timed
import PadCapture.Config.Basic
import PadCapture.Device.Stick
import PadCapture.Script.Background
import PadCapture.Script.Document

/-!
# The flow of the program

A run replays a script in the background, captures bindings one after another,
makes a device of each and then reads the devices at a fixed interval.
-/

namespace PadCapture

inductive Device where
  | button (device : ButtonDevice)
  | stick (stick : Stick)
deriving DecidableEq, Repr

inductive Device.Status where
  | pressed (isPressed : Bool)
  | vector (vector : StickVector)
deriving DecidableEq, Repr

namespace Device

def status (device : Device) (adapter : Adapter) : Status :=
  match device with
  | .button source => .pressed (source.status adapter)
  | .stick source => .vector (source.status adapter)

def ofBinding (config : Config) (kind : BindingKind) (binding : Params) : Logged Device :=
  match kind with
  | .button => do return .button (← ButtonDevice.ofBinding config.thresholdMode binding)
  | .analog => do return .stick (← Stick.ofBinding config.analogDeadzone binding)

end Device

def Config.pace (config : Config) : Pace :=
  ⟨config.pollInterval.toNat, config.captureTimeout.toNat⟩

namespace Flow

structure Plan where
  config : Config
  captures : List BindingKind
  samples : Nat
  sampleDelay : Nat

inductive Fault where
  | scriptUnreadable (path : String)
  | script (fault : Script.Fault)
deriving DecidableEq, Repr

structure CaptureRecord where
  binding : Option Params
  moment : Nat
  isConfiguring : Bool

structure SampleRecord where
  moment : Nat
  readings : List Device.Status

structure Outcome where
  captures : List CaptureRecord
  samples : List SampleRecord
  adapter : Adapter

structure Stage where
  scene : Scene Playback
  devices : List Device

end Flow

end PadCapture
