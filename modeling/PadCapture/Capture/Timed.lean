import PadCapture.Capture.Session
import PadCapture.Clock.Timer

/-!
# Timed captures

A timed capture polls its session at once and then at a fixed interval, until
there is a binding or a poll at or after the timeout has failed.  In between the
adapter is fed by a source, about which nothing is assumed.
-/

namespace PadCapture

/-- How a source feeds an adapter up to a moment. -/
abbrev Feed (Source : Type) := Source → (moment : Nat) → Adapter → Logged (Source × Adapter)

structure Scene (Source : Type) where
  source : Source
  adapter : Adapter
  now : Nat

namespace Scene

variable {Source : Type}

/-- The scene some time later, when the feed has had its turn. -/
def after (feed : Feed Source) (step : Nat) (scene : Scene Source) : Logged (Scene Source) := do
  let now := scene.now + step
  let (source, adapter) ← feed scene.source now scene.adapter
  return ⟨source, adapter, now⟩

end Scene

/-- How often a capture polls, and when it is given up. -/
structure Pace where
  interval : Nat
  timeout : Nat
deriving DecidableEq, Repr

/-- The pace that timers keep.  Giving up is up to the clock and takes none of them. -/
def Pace.onTimers (pace : Pace) : Pace := { pace with interval := Clock.timerOf pace.interval }

namespace Session

variable {Source : Type}

structure Attempt (Source : Type) where
  session : Session
  binding : Option Params
  scene : Scene Source

def attempt (session : Session) (scene : Scene Source) : Logged (Attempt Source) := do
  let (session, binding, adapter) ← session.next scene.adapter
  return ⟨session, binding, { scene with adapter }⟩

/-- Poll now and then every `step` milliseconds, until there is a binding or a poll at
or after the deadline has failed.  If no time passes between polls, there is just one. -/
def pollUntil (feed : Feed Source) (step deadline : Nat) (session : Session)
    (scene : Scene Source) : Logged (Attempt Source) := do
  let attempted ← session.attempt scene
  if attempted.binding.isSome then return attempted
  else if scene.now < deadline ∧ 0 < step then do
    let now := scene.now + step
    let (source, adapter) ← feed attempted.scene.source now attempted.scene.adapter
    pollUntil feed step deadline attempted.session ⟨source, adapter, now⟩
  else return attempted
termination_by deadline - scene.now

/-- Capture with a session that is capturing already, polling every `step` milliseconds,
and give its share of capture mode back. -/
def captureEvery (session : Session) (feed : Feed Source) (step timeout : Nat)
    (scene : Scene Source) : Logged (Attempt Source) := do
  let attempted ← session.pollUntil feed step (scene.now + timeout) scene
  Logged.noteIf attempted.binding.isNone (.captureTimedOut session.kind timeout)
  let (session, adapter) ← attempted.session.stop attempted.scene.adapter
  Logged.note (.sessionClosed session.kind)
  return ⟨session, attempted.binding, { attempted.scene with adapter }⟩

def capture (session : Session) (feed : Feed Source) (pace : Pace) (scene : Scene Source) :
    Logged (Attempt Source) :=
  session.captureEvery feed pace.interval pace.timeout scene

end Session

end PadCapture
