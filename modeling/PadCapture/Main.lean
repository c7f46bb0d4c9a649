import PadCapture.Clock.Bench
import PadCapture.Config.File
import PadCapture.Flow.Perform

/-!
# The command line

The program obtains its configuration, replays a script, captures a button and a
stick one after the other, and then reads both for two seconds.  What the parts
of a run do is decided elsewhere; here they are given the time that they take,
and their results are shown.
-/

namespace PadCapture.CommandLine

/-- The directory below which the configuration is kept: the given one if its path
is absolute, or else one in the home directory. -/
def configDirectory (given home : Option String) : String :=
  let fallback := match home with
    | some home => home ++ "/.config"
    | none => "."
  match given with
  | some directory => if directory.startsWith "/" then directory else fallback
  | none => fallback

def report {α : Type} (wanted : Level) (result : Logged α) : IO α := do
  (Logged.lines result.events wanted).forM fun line => IO.eprintln line
  return result.value

def readPlace (directory : String) : IO Place := do
  try
    return .file (← IO.FS.readBinFile (Config.filePath directory))
  catch fault =>
    match fault with
    | .noFileOrDirectory .. => return .missing
    | _ => return .unreadable ⟨toString fault⟩ ⟨toString fault⟩

def writePlace (directory : String) (before after : Place) : IO Unit := do
  match before, after with
  | .missing, .file content =>
      try
        IO.FS.createDirAll (Config.folderPath directory)
        IO.FS.writeBinFile (Config.filePath directory) content
      catch fault => IO.eprintln (toString fault)
  | _, _ => return ()

def obtainConfig (wanted : Level) : IO Config := do
  let directory := configDirectory (← IO.getEnv "XDG_CONFIG_HOME") (← IO.getEnv "HOME")
  let before ← readPlace directory
  let (config, after) ← report wanted (Config.obtain directory before)
  writePlace directory before after
  return config

def readScript (config : Config) : IO (Option String) := do
  match config.script with
  | none => return none
  | some path =>
      try return some (← IO.FS.readFile path)
      catch _ => return none

def faultMessage : Flow.Fault → String
  | .scriptUnreadable path => "Failed to read script " ++ path
  | .script .malformed => "Failed to parse script"
  | .script (.step ⟨step, fault⟩) => fault.message step

def perform {α : Type} (wanted : Level) (stage : Flow.Stage)
    (part : Flow.Stage → Logged (α × Flow.Stage)) : IO (α × Flow.Stage) := do
  let result := part stage
  IO.sleep (.ofNat (result.value.2.scene.now - stage.scene.now))
  report wanted result

def statusText : Device.Status → String
  | .pressed isPressed => s!"button={isPressed}"
  | .vector vector =>
      let right := Stick.points vector .right
      "stick=(" ++ vector.x.text .plain ++ ", " ++ vector.y.text .plain ++ s!") right={right}"

def readingLine (reading : Clock.WallClock.Reading) (statuses : List Device.Status) : String :=
  let millis := Numeral.natText reading.millis.toNat
  let cpu := Numeral.natText reading.cpuCycles.toNat
  let counter := Numeral.natText reading.counterCycles.toNat
  " ".intercalate
    (s!"t={millis}ms cpu={cpu} cntpct={counter}" :: statuses.map statusText)

def hostClock : IO Clock.HostClock := do return ⟨.ofNat (← IO.monoNanosNow)⟩

/-- Read the devices at a fixed interval, the given number of times. -/
def showSamples (wanted : Level) (clock : Clock.WallClock) :
    (count : Nat) → Flow.Stage → IO Flow.Stage
  | 0, stage => return stage
  | count + 1, stage => do
      let (records, stage) ← perform wanted stage (Flow.sampleAll 100 1)
      let reading := clock.read (← hostClock)
      if Level.info.shownAt wanted then
        records.forM fun record => IO.eprintln ("INFO " ++ readingLine reading record.readings)
      showSamples wanted clock count stage

def stop (wanted : Level) (stage : Flow.Stage) : IO Unit := do
  let scene := stage.scene
  let _ ← report wanted (scene.source.stop scene.now scene.adapter)

/-- Capture a button and a stick, and read them.  The result is the exit code. -/
def bindAndRead (wanted : Level) (config : Config) (clock : Clock.WallClock)
    (stage : Flow.Stage) : IO UInt32 := do
  let (button, stage) ← perform wanted stage (Flow.captureOne config .button)
  let (stick, stage) ← perform wanted stage (Flow.captureOne config .analog)
  match button.binding, stick.binding with
  | some button, some stick => do
      IO.println ("button: " ++ button.text)
      IO.println ("stick:  " ++ stick.text)
      let stage ← showSamples wanted clock 20 stage
      stop wanted stage
      return 0
  | _, _ => do
      stop wanted stage
      IO.eprintln "Error: Capture timed out before both bindings were complete"
      return 1

/-- The whole program.  The result is the exit code. -/
def run : IO UInt32 := do
  let wanted := Level.ofSetting (← IO.getEnv "RUST_LOG")
  let config ← obtainConfig wanted
  let clock ←
    report wanted
      (Clock.bestMatching (← hostClock) config.cpuFrequency config.counterFrequency)
  let script ← readScript config
  match ← report wanted (Flow.begin config fun _ => script) with
  | .ok stage => bindAndRead wanted config clock stage
  | .error fault => do
      IO.eprintln ("Error: " ++ faultMessage fault)
      return 1

end PadCapture.CommandLine

def main : IO UInt32 := PadCapture.CommandLine.run
