import PadCapture.Clock.Timer
import PadCapture.Pad.State

/-!
# Scripts

A script is a list of steps.  Each step waits and then replaces the whole state
of one port.
-/

namespace PadCapture

structure Step where
  /-- The milliseconds that pass before the state is published. -/
  delay : Nat
  port : Nat
  state : PortState
deriving DecidableEq, Repr

/-- A list of steps, which may be repeated without end. -/
structure Script where
  steps : List Step
  repeats : Bool
deriving DecidableEq, Repr

namespace Script

def lengthOf : List Step → Nat
  | [] => 0
  | step :: rest => step.delay + lengthOf rest

def length (script : Script) : Nat := lengthOf script.steps

/-- The script as timers carry it out. -/
def onTimers (script : Script) : Script :=
  { script with
    steps := script.steps.map fun step => { step with delay := Clock.timerOf step.delay } }

/-- Whether the script never ends by itself. -/
def isEndless (script : Script) : Bool := script.repeats && !script.steps.isEmpty

/-- A step of the built-in script, which moves nothing but the stick. -/
def demoStep (delay port : Nat) (buttons : Buttons) (x y : UInt8) : Step :=
  { delay, port
    state := (({ PortState.idle with buttons }).setAxis .stickX x).setAxis .stickY y }

/-- The built-in script: press A on port 0, then sweep the stick of port 1. -/
def demo : Script where
  steps :=
    [demoStep 300 0 .a 128 128, demoStep 150 0 .empty 128 128, demoStep 300 1 .empty 230 128,
      demoStep 100 1 .empty 230 20, demoStep 300 1 .empty 128 128]
  repeats := true

end Script

end PadCapture
