import PadCapture.Config.Basic
import PadCapture.Toml.Decode
import PadCapture.Toml.Document
import PadCapture.Toml.Quoting

/-!
# Configuration documents

A configuration is a document of three tables.  Every setting has a default, so
a part of a document is a document.
-/

namespace PadCapture

namespace ThresholdMode

def name : ThresholdMode → String
  | .fixed => "fixed"
  | .stored => "stored"

def ofName? (name : String) : Option ThresholdMode :=
  if name = "fixed" then some .fixed
  else if name = "stored" then some .stored
  else none

end ThresholdMode

namespace Config

open Toml

inductive TextFault where
  | malformed
  | invalid (fault : Fault)
deriving DecidableEq, Repr

def readClock (config : Config) (value : Value) : Option Config := do
  let fields ← value.fields? ["cpu_frequency", "clock_frequency"]
  let frequency (name : String) (default : UInt32) : Option UInt32 :=
    fields.get name default fun value =>
      (value.integer? ⟨0, 4294967295⟩).map fun number => .ofNat number.toNat
  let cpuFrequency ← frequency "cpu_frequency" config.cpuFrequency
  let counterFrequency ← frequency "clock_frequency" config.counterFrequency
  return { config with cpuFrequency, counterFrequency }

def readMillis (value : Value) : Option UInt64 :=
  (value.integer? .nat64).map fun number => .ofNat number.toNat

def readInput (config : Config) (value : Value) : Option Config := do
  let fields ← value.fields?
    ["axis_threshold_mode", "analog_deadzone", "capture_poll_interval_ms", "capture_timeout_ms"]
  let thresholdMode ← fields.get "axis_threshold_mode" config.thresholdMode fun value =>
    value.choice?.bind ThresholdMode.ofName?
  let analogDeadzone ← fields.get "analog_deadzone" config.analogDeadzone Value.single?
  let pollInterval ← fields.get "capture_poll_interval_ms" config.pollInterval readMillis
  let captureTimeout ← fields.get "capture_timeout_ms" config.captureTimeout readMillis
  return { config with thresholdMode, analogDeadzone, pollInterval, captureTimeout }

def readProducer (config : Config) (value : Value) : Option Config := do
  let fields ← value.fields? ["script"]
  let script ← fields.get "script" config.script fun value => value.text?.map some
  return { config with script }

def ofDocument? (document : Value) : Option Config := do
  let fields ← document.fields? ["clock", "input", "producer"]
  let config ← fields.get "clock" Config.default (readClock Config.default)
  let config ← fields.get "input" config (readInput config)
  fields.get "producer" config (readProducer config)

def parse (text : String) : Except TextFault Config :=
  match (Toml.parse text).bind ofDocument? with
  | none => .error .malformed
  | some config =>
      match config.fault? with
      | some fault => .error (.invalid fault)
      | none => .ok config

/-- The largest count that a document can hold. -/
def largestWritten : Nat := 9223372036854775807

def line (key value : String) : String := key ++ " = " ++ value ++ "\n"

/-- The document of a configuration.  There is none if a count is too large for
documents. -/
def text? (config : Config) : Option String :=
  let pollInterval := config.pollInterval.toNat
  let captureTimeout := config.captureTimeout.toNat
  let deadzone : Double := config.analogDeadzone.convert
  let script := match config.script with
    | some path => line "script" (quote path)
    | none => ""
  if pollInterval ≤ largestWritten && captureTimeout ≤ largestWritten then
    some <|
      "[clock]\n" ++ line "cpu_frequency" (Numeral.natText config.cpuFrequency.toNat) ++
      line "clock_frequency" (Numeral.natText config.counterFrequency.toNat) ++
      "\n[input]\n" ++ line "axis_threshold_mode" (quote config.thresholdMode.name) ++
      line "analog_deadzone" (deadzone.text .document) ++
      line "capture_poll_interval_ms" (Numeral.natText pollInterval) ++
      line "capture_timeout_ms" (Numeral.natText captureTimeout) ++
      "\n[producer]\n" ++ script
  else none

end Config

end PadCapture
