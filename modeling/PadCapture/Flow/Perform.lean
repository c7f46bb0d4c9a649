import PadCapture.Flow.Basic

/-!
# Carrying out a run

All that a run waits for, it waits for with timers.
-/

namespace PadCapture.Flow

/-- The script that is configured, or the built-in one.  Scripts are looked up with
`find?`. -/
def chooseScript (config : Config) (find? : String → Option String) :
    Logged (Except Fault Script) :=
  match config.script with
  | none => do
      Logged.note .demoChosen
      return .ok .demo
  | some path => do
      Logged.note (.scriptChosen path)
      return match find? path with
        | none => .error (.scriptUnreadable path)
        | some text => (Script.parse text).mapError .script

def begin (config : Config) (find? : String → Option String) : Logged (Except Fault Stage) := do
  let adapter ← Adapter.create
  let chosen ← chooseScript config find?
  match chosen with
  | .error fault => return .error fault
  | .ok script => do
      let playback ← Playback.spawn script.onTimers 0
      return .ok ⟨⟨playback, adapter, 0⟩, []⟩

def restore (config : Config) (kind : BindingKind) (binding : Params) : Logged (List Device) :=
  match Params.parse binding.text with
  | .ok stored => do return [← Device.ofBinding config kind stored]
  | .error _ => return []

def captureOne (config : Config) (kind : BindingKind) (stage : Stage) :
    Logged (CaptureRecord × Stage) := do
  let (session, adapter) ← Session.launch kind stage.scene.adapter
  let attempted ← session.capture Playback.feed config.pace.onTimers { stage.scene with adapter }
  let made ← match attempted.binding with
    | some binding => restore config kind binding
    | none => pure []
  let scene := attempted.scene
  return (⟨attempted.binding, scene.now, scene.adapter.isConfiguring⟩,
    ⟨scene, stage.devices ++ made⟩)

def captureAll (config : Config) : List BindingKind → Stage → Logged (List CaptureRecord × Stage)
  | [], stage => return ([], stage)
  | kind :: rest, stage => do
      let (record, stage) ← captureOne config kind stage
      let (records, stage) ← captureAll config rest stage
      return (record :: records, stage)

def sampleAll (delay : Nat) : (count : Nat) → Stage → Logged (List SampleRecord × Stage)
  | 0, stage => return ([], stage)
  | count + 1, stage => do
      let scene ← stage.scene.after Playback.feed (Clock.timerOf delay)
      let readings := stage.devices.map (·.status scene.adapter)
      let (records, stage) ← sampleAll delay count { stage with scene }
      return (⟨scene.now, readings⟩ :: records, stage)

def complete (plan : Plan) (stage : Stage) : Logged Outcome := do
  let (captures, stage) ← captureAll plan.config plan.captures stage
  let (samples, stage) ← sampleAll plan.sampleDelay plan.samples stage
  let scene := stage.scene
  let (_, adapter) ← scene.source.stop scene.now scene.adapter
  return ⟨captures, samples, adapter⟩

def run (plan : Plan) (find? : String → Option String) : Logged (Except Fault Outcome) := do
  let begun ← begin plan.config find?
  match begun with
  | .error fault => return .error fault
  | .ok stage => do return .ok (← complete plan stage)

end PadCapture.Flow
