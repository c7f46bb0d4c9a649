import PadCapture.Device.Button

/-!
# Configuration

The settings of the program, their defaults and the settings that are valid.
-/

namespace PadCapture

structure Config where
  cpuFrequency : UInt32
  counterFrequency : UInt32
  thresholdMode : ThresholdMode
  /-- The deadzone of sticks whose binding has none. -/
  analogDeadzone : Single
  /-- Milliseconds between two polls of a capture. -/
  pollInterval : UInt64
  /-- Milliseconds after which a capture is given up. -/
  captureTimeout : UInt64
  /-- The script to replay; a built-in one where it is missing. -/
  script : Option String
deriving DecidableEq, Repr

namespace Config

def default : Config where
  cpuFrequency := 1020000000
  counterFrequency := 19200000
  thresholdMode := .fixed
  analogDeadzone := .zero false
  pollInterval := 10
  captureTimeout := 5000
  script := none

/-- The settings that can be invalid, in the order in which they are checked. -/
inductive Fault where
  | cpuFrequency
  | counterFrequency
  | analogDeadzone
  | pollInterval
deriving DecidableEq, Repr

def Fault.reason : Fault → String
  | .cpuFrequency => "clock.cpu_frequency must be positive"
  | .counterFrequency => "clock.clock_frequency must be positive"
  | .analogDeadzone => "input.analog_deadzone must be a number"
  | .pollInterval => "input.capture_poll_interval_ms must be positive"

def fault? (config : Config) : Option Fault :=
  if config.cpuFrequency = 0 then some .cpuFrequency
  else if config.counterFrequency = 0 then some .counterFrequency
  else if !config.analogDeadzone.isFinite then some .analogDeadzone
  else if config.pollInterval = 0 then some .pollInterval
  else none

end Config

end PadCapture
