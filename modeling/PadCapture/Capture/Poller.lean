import PadCapture.Capture.Binding

/-!
# Pollers

A poller takes samples from the queues, port by port, until they make a
binding.  A button poller binds one sample.  An analog poller holds the first
moved axis until a different axis moves on the same port.
-/

namespace PadCapture

inductive Poller where
  | button
  | analog (held : Option HalfBinding)
deriving DecidableEq, Repr

namespace Poller

/-- The deflection below which a sample counts as idle noise. -/
def idleDeflection : Single := .nearest (1 / 10)

def fresh : BindingKind → Poller
  | .button => .button
  | .analog => .analog none

def kind : Poller → BindingKind
  | .button => .button
  | .analog _ => .analog

def held : Poller → Option HalfBinding
  | .button => none
  | .analog held => held

def reset : Poller → Logged Poller
  | .button => return .button
  | .analog none => return .analog none
  | .analog (some half) => do
      Logged.note (.halfDiscarded half)
      return .analog none

def isIdle (sample : Sample) : Bool := sample.normalized.abs.less idleDeflection

def pair (held : Option HalfBinding) (port : Port) (axis : Axis) :
    Logged (Poller × Option Params) :=
  match held with
  | none => do
      Logged.note (.axisHeld ⟨axis, port.val⟩)
      return (.analog (some ⟨axis, port.val⟩), none)
  | some half =>
      if half.port = port.val && half.axis != axis then
        return (.analog none, some (Binding.ofStick port half.axis axis))
      else do
        Logged.note (.axisRefused axis port.val half)
        return (.analog (some half), none)

def offer (poller : Poller) (port : Port) (sample : Sample) : Logged (Poller × Option Params) :=
  match poller with
  | .button =>
      match Binding.ofSample? port sample with
      | some binding => return (.button, some binding)
      | none => do
          Logged.note (.nothingToBind sample)
          return (.button, none)
  | .analog held =>
      match sample.axis with
      | none => return (.analog held, none)
      | some axis =>
          if isIdle sample then do
            Logged.note (.idleSampleIgnored sample)
            return (.analog held, none)
          else pair held port axis

/-- What polling leaves behind, where `Rest` is what it took samples from. -/
structure Outcome (Rest : Type) where
  poller : Poller
  binding : Option Params
  rest : Rest

def drain (poller : Poller) (port : Port) : List Sample → Logged (Outcome (List Sample))
  | [] => return ⟨poller, none, []⟩
  | sample :: rest => do
      Logged.note (.samplePopped sample)
      let (poller, binding) ← poller.offer port sample
      if binding.isSome then return ⟨poller, binding, rest⟩
      else drain poller port rest

def drainPorts (poller : Poller) (adapter : Adapter) : List Port → Logged (Outcome Adapter)
  | [] => return ⟨poller, none, adapter⟩
  | port :: ports => do
      let drained ← poller.drain port (adapter.queue port)
      let adapter := adapter.setQueue port drained.rest
      if drained.binding.isSome then return ⟨drained.poller, drained.binding, adapter⟩
      else drainPorts drained.poller adapter ports

def next (poller : Poller) (adapter : Adapter) : Logged (Outcome Adapter) :=
  poller.drainPorts adapter Port.all

end Poller

end PadCapture
