import PadCapture.Adapter.Port
import PadCapture.Log.Logged

/-!
# The adapter

Each port of the adapter shows the last state published for it
and has a queue of capture samples.  Capture mode is on while the number of
open sessions is positive; only then do published states reach the queues.
Opening or closing a session empties all queues.
-/

namespace PadCapture

structure Slot where
  state : PortState
  queue : List Sample
deriving DecidableEq

/-- The adapter's four slots and its number of open capture sessions. -/
structure Adapter where
  slots : PerPort Slot
  openSessions : Nat
deriving DecidableEq

namespace Adapter

/-- All ports idle, all queues empty and no session open. -/
def initial : Adapter := ⟨.uniform ⟨.idle, []⟩, 0⟩

def create : Logged Adapter := do
  Logged.note (.adapterCreated Port.count)
  return initial

def state (adapter : Adapter) (port : Port) : PortState := (adapter.slots.get port).state

def queue (adapter : Adapter) (port : Port) : List Sample := (adapter.slots.get port).queue

def setState (adapter : Adapter) (port : Port) (state : PortState) : Adapter :=
  { adapter with slots := adapter.slots.set port ⟨state, adapter.queue port⟩ }

def setQueue (adapter : Adapter) (port : Port) (queue : List Sample) : Adapter :=
  { adapter with slots := adapter.slots.set port ⟨adapter.state port, queue⟩ }

def enqueue (adapter : Adapter) (port : Port) (sample : Sample) : Adapter :=
  adapter.setQueue port (adapter.queue port ++ [sample])

def isConfiguring (adapter : Adapter) : Bool := 0 < adapter.openSessions

def state? (adapter : Adapter) (port : Nat) : Option PortState :=
  (Port.ofNat? port).map adapter.state

/-- Publish a new state for a port.  In capture mode its sample is queued as
well. -/
def update (adapter : Adapter) (port : Nat) (state : PortState) : Logged Adapter :=
  match Port.ofNat? port with
  | none => do
      Logged.note (.stateForUnknownPort port)
      return adapter
  | some slot =>
      let shown := adapter.setState slot state
      match shown.isConfiguring, Sample.ofState? port state with
      | true, some sample => do
          Logged.note (.sampleQueued sample)
          return shown.enqueue slot sample
      | _, _ => return shown

/-- Queue a finished sample at its own port.  Outside capture mode it is
refused. -/
def push (adapter : Adapter) (sample : Sample) : Logged Adapter :=
  match Port.ofNat? sample.port with
  | none => do
      Logged.note (.sampleForUnknownPort sample.port)
      return adapter
  | some slot =>
      if adapter.isConfiguring then return adapter.enqueue slot sample
      else do
        Logged.note (.sampleRefused sample)
        return adapter

def pop (adapter : Adapter) (port : Port) : Logged (Option Sample × Adapter) :=
  match adapter.queue port with
  | [] => return (none, adapter)
  | sample :: rest => do
      Logged.note (.samplePopped sample)
      return (some sample, adapter.setQueue port rest)

def takeAll (adapter : Adapter) (port : Port) : Logged (List Sample × Adapter) :=
  ⟨(adapter.queue port, adapter.setQueue port []), (adapter.queue port).map .samplePopped⟩

def emptied (adapter : Adapter) : Adapter :=
  { adapter with slots := adapter.slots.map fun slot => ⟨slot.state, []⟩ }

def waiting (adapter : Adapter) : List Sample := Port.all.flatMap adapter.queue

def clearQueues (adapter : Adapter) : Logged Adapter :=
  let stale := adapter.waiting
  ⟨adapter.emptied,
    stale.map .samplePopped ++
      (if stale.isEmpty then [] else [.staleSamplesCleared stale.length])⟩

def beginCapture (adapter : Adapter) : Logged Adapter := do
  let cleared ← adapter.clearQueues
  let openSessions := cleared.openSessions + 1
  Logged.note (.captureEnabled openSessions)
  return { cleared with openSessions }

def closingEvent : (openSessions : Nat) → Event
  | 0 => .captureNotOpen
  | 1 => .captureDisabled
  | stillOpen + 1 => .captureStillOpen stillOpen

/-- Close a session of capture mode.  Without an open session the number stays
zero. -/
def endCapture (adapter : Adapter) : Logged Adapter := do
  Logged.note (closingEvent adapter.openSessions)
  clearQueues { adapter with openSessions := adapter.openSessions - 1 }

end Adapter

end PadCapture
