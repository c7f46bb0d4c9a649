import PadCapture.Clock.Cycles

/-!
# Wall clocks on a shared host clock

A host clock shows a 64-bit count of nanoseconds and never runs backwards.  A
wall clock remembers the host time of its creation and the frequencies of its
two cycle domains; every reading is a function of the elapsed time alone, so
nothing accumulates and nothing drifts.
-/

namespace PadCapture.Clock

/-- A host clock, which is the nanoseconds it shows. -/
structure HostClock where
  now : UInt64
deriving DecidableEq, Repr

namespace HostClock

/-- Let `nanos` pass.  The count stops at the largest 64-bit value. -/
def advance (host : HostClock) (nanos : UInt64) : HostClock :=
  ⟨.ofNat (min (host.now.toNat + nanos.toNat) largestCount)⟩

/-- Move to `nanos`.  A moment that has passed already is ignored. -/
def moveTo (host : HostClock) (nanos : UInt64) : HostClock :=
  ⟨if host.now ≤ nanos then nanos else host.now⟩

end HostClock

/-- A clock with two cycle domains, started at host time `start`. -/
structure WallClock where
  start : UInt64
  cpuFrequency : UInt32
  counterFrequency : UInt32
deriving DecidableEq, Repr

namespace WallClock

def startOn (host : HostClock) (cpuFrequency counterFrequency : UInt32) : WallClock :=
  ⟨host.now, cpuFrequency, counterFrequency⟩

/-- Nanoseconds since the start, zero while the host shows an earlier time. -/
def elapsed (clock : WallClock) (host : HostClock) : UInt64 :=
  .ofNat (host.now.toNat - clock.start.toNat)

structure Reading where
  nanos : UInt64
  micros : UInt64
  millis : UInt64
  cpuCycles : UInt64
  counterCycles : UInt64
deriving DecidableEq, Repr

def read (clock : WallClock) (host : HostClock) : Reading :=
  let elapsed := clock.elapsed host
  { nanos := elapsed
    micros := elapsed / 1000
    millis := elapsed / 1000000
    cpuCycles := cyclesOfNanos elapsed clock.cpuFrequency
    counterCycles := cyclesOfNanos elapsed clock.counterFrequency }

end WallClock

end PadCapture.Clock
