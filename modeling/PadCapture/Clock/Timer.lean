/-!
# Timers

The times that the program waits are exact.  The timers that a run is carried out with are
not part of the program, and they take nothing longer than thirty years: one that is set for
more goes off after thirty years already.
-/

namespace PadCapture.Clock

/-- The longest time of a timer: thirty years of 365 days, in milliseconds. -/
def longestTimer : Nat := 30 * 365 * 24 * 60 * 60 * 1000

/-- The milliseconds after which a timer goes off that is set for `millis`. -/
def timerOf (millis : Nat) : Nat := min millis longestTimer

/-- Up to the longest time, a timer takes what it is set for. -/
theorem timerOf_eq {millis : Nat} (short : millis ≤ longestTimer) : timerOf millis = millis :=
  Nat.min_eq_left short

end PadCapture.Clock
