import PadCapture.Adapter.Basic
import PadCapture.Script.Basic

/-!
# Replaying scripts

Time is a count of milliseconds.  A step is due when its delay is over, which begins
with the step before it; a replay applies the steps that are due before a given
moment, in order.
-/

namespace PadCapture

/-- A replay that has been carried out up to some moment. -/
structure Playback where
  script : Script
  upcoming : List Step
  /-- When the last step was applied, or when the replay began. -/
  last : Nat
  applied : Nat
  ended : Bool
deriving DecidableEq, Repr

namespace Playback

def begin (script : Script) (start : Nat) : Playback :=
  ⟨script, script.steps, start, 0, false⟩

/-- The next step, at the end of a round the first one again if the script
repeats. -/
def next? (playback : Playback) : Option (Step × List Step) :=
  match playback.upcoming with
  | step :: rest => some (step, rest)
  | [] =>
      if playback.script.repeats then
        match playback.script.steps with
        | step :: rest => some (step, rest)
        | [] => none
      else none

def advance (playback : Playback) (step : Step) (rest : List Step) : Playback :=
  { playback with
    upcoming := rest
    last := playback.last + step.delay
    applied := playback.applied + 1 }

/-- The end of a script.  A script without steps ends without notice. -/
def finish (playback : Playback) : Logged Playback := do
  Logged.noteIf (!playback.script.steps.isEmpty) (.replayFinished playback.applied)
  return { playback with ended := true }

/-- Apply the steps that are due before `limit`, of which there are at most
`fuel`. -/
def applyDue (limit : Nat) : (fuel : Nat) → Playback → Adapter → Logged (Playback × Adapter)
  | 0, playback, adapter => return (playback, adapter)
  | fuel + 1, playback, adapter =>
      match playback.next? with
      | none => do
          let playback ← playback.finish
          return (playback, adapter)
      | some (step, rest) =>
          if playback.last + step.delay < limit then do
            Logged.note (.stepApplied step.port step.state)
            let adapter ← adapter.update step.port step.state
            applyDue limit fuel (playback.advance step rest) adapter
          else return (playback, adapter)

/-- More than the number of steps due before `limit`, for a script whose rounds
take time: each round that begins takes a millisecond at least. -/
def fuelFor (playback : Playback) (limit : Nat) : Nat :=
  (limit - playback.last + 2) * (playback.script.steps.length + 1)

def runTo (playback : Playback) (limit : Nat) (adapter : Adapter) :
    Logged (Playback × Adapter) :=
  if playback.ended then return (playback, adapter)
  else applyDue limit (playback.fuelFor limit) playback adapter

def cancel (playback : Playback) : Logged Playback := do
  Logged.noteIf (!playback.ended) (.replayCancelled playback.applied)
  return { playback with ended := true }

end Playback

namespace Script

structure Replayed where
  applied : Nat
  elapsed : Nat
  adapter : Adapter

/-- The moment before which all steps of a replay are due: the moment at which it is
cancelled, or a moment after its end.  There is none for a replay without end. -/
def horizon? (script : Script) (cancelAt : Option Nat) : Option Nat :=
  if script.isEndless && script.length = 0 then none
  else
    match cancelAt with
    | some millis => some millis
    | none => if script.isEndless then none else some (script.length + 1)

/-- Play a script from its beginning until it ends or is cancelled.  Without an end there
is no outcome. -/
def play? (script : Script) (cancelAt : Option Nat) (adapter : Adapter) :
    Option (Logged Replayed) :=
  (script.horizon? cancelAt).map fun horizon => do
    let (playback, adapter) ← (Playback.begin script 0).runTo horizon adapter
    let _ ← playback.cancel
    let elapsed := if playback.ended then playback.last else horizon
    return ⟨playback.applied, elapsed, adapter⟩

/-- Play a script with a timer for each delay and one for the cancellation. -/
def replay? (script : Script) (cancelAt : Option Nat) (adapter : Adapter) :
    Option (Logged Replayed) :=
  script.onTimers.play? (cancelAt.map Clock.timerOf) adapter

end Script

end PadCapture
