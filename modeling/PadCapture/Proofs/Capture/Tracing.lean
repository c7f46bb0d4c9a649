import PadCapture.Proofs.Capture.Drain
import PadCapture.Proofs.Capture.Entries

/-!
# Tracing samples into bindings

An accepted sample is known by its port and its place among all samples that were
ever accepted there.  A tracer is a poller that also remembers which accepted sample
its half binding came from, and names the samples of each binding.  Forgetting the
places gives back the poll itself.  The invariant of a poll is kept by taking a single
sample and so by a whole poll.
-/

namespace PadCapture.Provenance

open Numeral

/-- An accepted sample: its port and its place among all samples accepted there. -/
structure Mark where
  port : Port
  index : Nat
deriving DecidableEq, Repr

/-- The accepted samples that a binding was made from. -/
inductive Origin where
  | one (mark : Mark)
  | two (first second : Mark)
deriving DecidableEq, Repr

namespace Origin

def marks : Origin → List Mark
  | one mark => [mark]
  | two first second => [first, second]

/-- The origin of a binding that `last` completed. -/
def ofSource (source : Option Mark) (last : Mark) : Origin :=
  match source with
  | none => one last
  | some first => two first last

end Origin

/-- A poller and the sample that its half binding came from. -/
structure Tracer where
  poller : Poller
  source : Option Mark
deriving DecidableEq, Repr

/-- What a traced poll leaves behind. -/
structure Traced (Rest : Type) where
  tracer : Tracer
  made : Option (Params × Origin)
  rest : Rest

/-- The outcome of a poll without the places of its samples. -/
def Traced.outcome {Rest : Type} (traced : Traced Rest) : Poller.Outcome Rest :=
  ⟨traced.tracer.poller, traced.made.map Prod.fst, traced.rest⟩

namespace Tracer

/-- Offer the sample at `mark`.  A half binding that is new came from it. -/
def offer (tracer : Tracer) (mark : Mark) (sample : Sample) :
    Tracer × Option (Params × Origin) :=
  let offered := (tracer.poller.offer mark.port sample).value
  match offered.2 with
  | some binding => (⟨offered.1, none⟩, some (binding, .ofSource tracer.source mark))
  | none =>
      (⟨offered.1, if offered.1.held = tracer.poller.held then tracer.source else some mark⟩, none)

/-- Take samples from the queue of a port that has accepted `total` samples so far. -/
def drain (tracer : Tracer) (port : Port) (total : Nat) : List Sample → Traced (List Sample)
  | [] => ⟨tracer, none, []⟩
  | sample :: rest =>
      let offered := tracer.offer ⟨port, total - (rest.length + 1)⟩ sample
      if offered.2.isSome then ⟨offered.1, offered.2, rest⟩
      else offered.1.drain port total rest

def drainPorts (tracer : Tracer) (totals : Port → Nat) (adapter : Adapter) :
    List Port → Traced Adapter
  | [] => ⟨tracer, none, adapter⟩
  | port :: ports =>
      let drained := tracer.drain port (totals port) (adapter.queue port)
      let adapter := adapter.setQueue port drained.rest
      if drained.made.isSome then ⟨drained.tracer, drained.made, adapter⟩
      else drained.tracer.drainPorts totals adapter ports

def next (tracer : Tracer) (totals : Port → Nat) (adapter : Adapter) : Traced Adapter :=
  tracer.drainPorts totals adapter Port.all

variable (tracer : Tracer)

theorem offer_poller (mark : Mark) (sample : Sample) :
    ((tracer.offer mark sample).1.poller, (tracer.offer mark sample).2.map Prod.fst) =
      (tracer.poller.offer mark.port sample).value := by
  unfold offer
  dsimp only
  split
  · rename_i binding made
    exact Prod.ext rfl made.symm
  · rename_i none_made
    exact Prod.ext rfl none_made.symm

/-- Everything that offering a sample to a tracer can do. -/
inductive Offered (mark : Mark) (sample : Sample) : Tracer → Tracer × Option (Params × Origin) →
    Prop where
  | passed (tracer : Tracer) : Offered mark sample tracer (tracer, none)
  | bound (source : Option Mark) (binding : Params)
      (made : Binding.ofSample? mark.port sample = some binding) :
      Offered mark sample ⟨.button, source⟩ (⟨.button, none⟩, some (binding, .ofSource source mark))
  | held (source : Option Mark) (axis : Axis) (axisAt : sample.axis = some axis) :
      Offered mark sample ⟨.analog none, source⟩
        (⟨.analog (some ⟨axis, mark.port.val⟩), some mark⟩, none)
  | paired (source : Option Mark) (axisX axisY : Axis) (axisAt : sample.axis = some axisY)
      (different : axisX ≠ axisY) :
      Offered mark sample ⟨.analog (some ⟨axisX, mark.port.val⟩), source⟩
        (⟨.analog none, none⟩,
          some (Binding.ofStick mark.port axisX axisY, .ofSource source mark))

theorem offered (mark : Mark) (sample : Sample) :
    Offered mark sample tracer (tracer.offer mark sample) := by
  obtain ⟨poller, source⟩ := tracer
  have offered := poller.offered mark.port sample
  unfold offer
  generalize (poller.offer mark.port sample).value = result at offered
  cases offered with
  | passed =>
      simp only [if_true]
      exact .passed _
  | bound binding made => exact .bound source binding made
  | held axis axisAt => exact .held source axis axisAt
  | paired axisX axisY axisAt different => exact .paired source axisX axisY axisAt different

section Steps

variable {tracer} {port : Port} {total : Nat} {sample : Sample} {rest : List Sample}

theorem drain_cons_of_none
    (offered : (tracer.offer ⟨port, total - (rest.length + 1)⟩ sample).2 = none) :
    tracer.drain port total (sample :: rest) =
      (tracer.offer ⟨port, total - (rest.length + 1)⟩ sample).1.drain port total rest := by
  simp [drain, offered]

theorem drain_cons_of_some {made : Params × Origin}
    (offered : (tracer.offer ⟨port, total - (rest.length + 1)⟩ sample).2 = some made) :
    tracer.drain port total (sample :: rest) =
      ⟨(tracer.offer ⟨port, total - (rest.length + 1)⟩ sample).1, some made, rest⟩ := by
  simp [drain, offered]

variable {totals : Port → Nat} {adapter : Adapter} {ports : List Port}

theorem drainPorts_cons_of_none
    (drained : (tracer.drain port (totals port) (adapter.queue port)).made = none) :
    tracer.drainPorts totals adapter (port :: ports) =
      (tracer.drain port (totals port) (adapter.queue port)).tracer.drainPorts totals
        (adapter.setQueue port (tracer.drain port (totals port) (adapter.queue port)).rest)
        ports := by
  simp [drainPorts, drained]

theorem drainPorts_cons_of_some {made : Params × Origin}
    (drained : (tracer.drain port (totals port) (adapter.queue port)).made = some made) :
    tracer.drainPorts totals adapter (port :: ports) =
      ⟨(tracer.drain port (totals port) (adapter.queue port)).tracer, some made,
        adapter.setQueue port (tracer.drain port (totals port) (adapter.queue port)).rest⟩ := by
  simp [drainPorts, drained]

end Steps

theorem drain_outcome (port : Port) (total : Nat) (queue : List Sample) :
    (tracer.drain port total queue).outcome = (tracer.poller.drain port queue).value := by
  induction queue generalizing tracer with
  | nil => rfl
  | cons sample rest ih =>
      have offered := tracer.offer_poller ⟨port, total - (rest.length + 1)⟩ sample
      cases made : (tracer.offer ⟨port, total - (rest.length + 1)⟩ sample).2 with
      | none =>
          rw [made] at offered
          rw [drain_cons_of_none made, Poller.drain_cons_of_none _ _ offered.symm]
          exact ih _
      | some origin =>
          rw [made] at offered
          rw [drain_cons_of_some made, Poller.drain_cons_of_some _ _ offered.symm]
          rfl

theorem drainPorts_outcome (totals : Port → Nat) (adapter : Adapter) (ports : List Port) :
    (tracer.drainPorts totals adapter ports).outcome =
      (tracer.poller.drainPorts adapter ports).value := by
  induction ports generalizing tracer adapter with
  | nil => rfl
  | cons port ports ih =>
      have drained := tracer.drain_outcome port (totals port) (adapter.queue port)
      cases made : (tracer.drain port (totals port) (adapter.queue port)).made with
      | none =>
          rw [Traced.outcome, made] at drained
          rw [drainPorts_cons_of_none made, Poller.drainPorts_cons_of_none _ _ _ drained.symm]
          exact ih _ _
      | some origin =>
          rw [Traced.outcome, made] at drained
          rw [drainPorts_cons_of_some made, Poller.drainPorts_cons_of_some _ _ _ drained.symm]
          rfl

/-- Without the places, a traced poll is the poll. -/
theorem next_outcome (totals : Port → Nat) (adapter : Adapter) :
    (tracer.next totals adapter).outcome = (tracer.poller.next adapter).value :=
  tracer.drainPorts_outcome totals adapter Port.all

end Tracer

end PadCapture.Provenance
