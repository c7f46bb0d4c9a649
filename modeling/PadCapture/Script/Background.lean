import PadCapture.Script.Playback

/-!
# Replays in the background

A replay in the background announces itself, is carried on whenever time
passes, and reports when it is over.
-/

namespace PadCapture.Playback

def spawn (script : Script) (start : Nat) : Logged Playback := do
  Logged.note (.replaySpawned script.steps.length script.repeats)
  return begin script start

/-- Carry a replay in the background on to the moment `limit`. -/
def feed (playback : Playback) (limit : Nat) (adapter : Adapter) :
    Logged (Playback × Adapter) := do
  let (after, adapter) ← playback.runTo limit adapter
  Logged.noteIf (!playback.ended && after.ended) (.replayExited after.applied)
  return (after, adapter)

/-- Stop a replay in the background at the moment `now`, and wait for its end. -/
def stop (playback : Playback) (now : Nat) (adapter : Adapter) :
    Logged (Playback × Adapter) := do
  let (after, adapter) ← playback.feed now adapter
  let stopped ← after.cancel
  Logged.noteIf (!after.ended) (.replayExited stopped.applied)
  return (stopped, adapter)

end PadCapture.Playback
