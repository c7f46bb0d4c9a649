import PadCapture.Clock.WallClock
import PadCapture.Log.Logged

/-!
# Benches of clocks

A bench of wall clocks that share one host clock, driven by commands.  Pausing a
clock is noted and has no effect: host time runs on.
-/

namespace PadCapture.Clock

structure Bench where
  host : HostClock
  clocks : List WallClock
deriving DecidableEq, Repr

inductive Command where
  | start (cpuFrequency counterFrequency : UInt32)
  | advance (nanos : UInt64)
  | moveTo (nanos : UInt64)
  | pause (index : Nat) (paused : Bool)
  | read (index : Nat)
deriving DecidableEq, Repr

inductive Reply where
  | started (index : Nat)
  | now (nanos : UInt64)
  | done
  | reading (clock : WallClock) (reading : WallClock.Reading)
deriving DecidableEq, Repr

namespace Bench

def ofStart (nanos : UInt64) : Bench := ⟨⟨nanos⟩, []⟩

/-- Carry out one command.  A clock that does not exist does nothing. -/
def perform (bench : Bench) (command : Command) : Logged (Reply × Bench) :=
  match command with
  | .start cpuFrequency counterFrequency => do
      Logged.note (.clockStarted cpuFrequency counterFrequency)
      let clock := WallClock.startOn bench.host cpuFrequency counterFrequency
      return (.started bench.clocks.length, { bench with clocks := bench.clocks ++ [clock] })
  | .advance nanos =>
      let host := bench.host.advance nanos
      return (.now host.now, { bench with host })
  | .moveTo nanos =>
      let host := bench.host.moveTo nanos
      return (.now host.now, { bench with host })
  | .pause index paused => do
      Logged.noteIf (index < bench.clocks.length) (.pauseIgnored paused)
      return (.done, bench)
  | .read index =>
      match bench.clocks[index]? with
      | some clock => return (.reading clock (clock.read bench.host), bench)
      | none => return (.done, bench)

def run (bench : Bench) : List Command → Logged (List Reply × Bench)
  | [] => return ([], bench)
  | command :: rest => do
      let (reply, bench) ← bench.perform command
      let (replies, bench) ← run bench rest
      return (reply :: replies, bench)

end Bench

/-- The clock that suits this host best.  There is one kind of clock only. -/
def bestMatching (host : HostClock) (cpuFrequency counterFrequency : UInt32) :
    Logged WallClock := do
  Logged.note .noNativeClock
  Logged.note (.clockStarted cpuFrequency counterFrequency)
  return .startOn host cpuFrequency counterFrequency

end PadCapture.Clock
