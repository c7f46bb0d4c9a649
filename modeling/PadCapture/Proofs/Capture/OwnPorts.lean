import PadCapture.Proofs.Capture.Drain
import PadCapture.Proofs.Capture.Entries

/-!
# Polls by the ports of samples

A poll goes by the queue in which a sample waits and never looks at the port that the
sample names.  Where every sample waits at its own port, it comes to the same to go by
the samples alone, so that a binding is for the port of the samples it is made of.
-/

namespace PadCapture

/-- Every waiting sample waits at the port that it names. -/
def Adapter.Routed (adapter : Adapter) : Prop :=
  ∀ port, ∀ sample ∈ adapter.queue port, sample.port = port.val

theorem Adapter.Routed.setQueue {adapter : Adapter} (routed : adapter.Routed) {port : Port}
    {rest : List Sample} (suffix : rest <:+ adapter.queue port) :
    (adapter.setQueue port rest).Routed :=
  fun other sample member =>
    routed other sample ((adapter.queue_setQueue_suffix port suffix other).mem member)

theorem Adapter.mem_waiting {adapter : Adapter} {port : Port} {sample : Sample}
    (member : sample ∈ adapter.queue port) : sample ∈ adapter.waiting :=
  List.mem_flatMap.mpr ⟨port, Port.mem_all port, member⟩

/-- The axis is that of the sample, for the port that the sample names. -/
def HalfBinding.IsOf (half : HalfBinding) (sample : Sample) : Prop :=
  half.port = sample.port ∧ sample.axis = some half.axis

namespace Poller

section Definitions

/-- Offer a sample at the port that it names itself. -/
def offerOwn (poller : Poller) (sample : Sample) : Logged (Poller × Option Params) :=
  match Port.ofNat? sample.port with
  | some port => poller.offer port sample
  | none => return (poller, none)

def drainOwn (poller : Poller) : List Sample → Logged (Outcome (List Sample))
  | [] => return ⟨poller, none, []⟩
  | sample :: rest => do
      Logged.note (.samplePopped sample)
      let (poller, binding) ← poller.offerOwn sample
      if binding.isSome then return ⟨poller, binding, rest⟩
      else drainOwn poller rest

def drainPortsOwn (poller : Poller) (adapter : Adapter) : List Port → Logged (Outcome Adapter)
  | [] => return ⟨poller, none, adapter⟩
  | port :: ports => do
      let drained ← poller.drainOwn (adapter.queue port)
      let adapter := adapter.setQueue port drained.rest
      if drained.binding.isSome then return ⟨drained.poller, drained.binding, adapter⟩
      else drainPortsOwn drained.poller adapter ports

/-- Poll by the ports that the samples name, whatever queues they wait in. -/
def nextOwn (poller : Poller) (adapter : Adapter) : Logged (Outcome Adapter) :=
  poller.drainPortsOwn adapter Port.all

/-- The axis was held by the poller at first or is that of a waiting sample of its port. -/
def HeldFrom (poller : Poller) (waiting : List Sample) (half : HalfBinding) : Prop :=
  poller.held = some half ∨ ∃ sample ∈ waiting, half.IsOf sample

/-- The sample completes the binding, which is for its port.  An axis held until then is
of the same port. -/
structure BoundFrom (poller : Poller) (waiting : List Sample) (sample : Sample)
    (binding : Params) : Prop where
  member : sample ∈ waiting
  port : binding.get? "port" = some (Numeral.natText sample.port)
  completes : ∃ before after : Poller, (before.offerOwn sample).value = (after, some binding) ∧
    ∀ half, before.held = some half → half.port = sample.port ∧ HeldFrom poller waiting half

end Definitions

section Agreement

variable (poller : Poller) {port : Port}

theorem offerOwn_eq {sample : Sample} (own : sample.port = port.val) :
    poller.offerOwn sample = poller.offer port sample := by
  rw [offerOwn, own, Port.ofNat?_val]

theorem drain_eq_drainOwn {queue : List Sample} (own : ∀ sample ∈ queue, sample.port = port.val) :
    poller.drain port queue = poller.drainOwn queue := by
  induction queue generalizing poller with
  | nil => rfl
  | cons sample rest ih =>
      rw [List.forall_mem_cons] at own
      have later (next : Poller) := ih next own.2
      simp only [drain, drainOwn, poller.offerOwn_eq own.1, later]

theorem drainPorts_eq_drainPortsOwn {adapter : Adapter} (routed : adapter.Routed)
    (ports : List Port) : poller.drainPorts adapter ports = poller.drainPortsOwn adapter ports := by
  induction ports generalizing poller adapter with
  | nil => rfl
  | cons port ports ih =>
      -- What is left of a queue is part of it, so the later ports find their own samples still.
      have suffix := (poller.drained port (adapter.queue port)).suffix
      rw [drainPorts, drainPortsOwn, ← poller.drain_eq_drainOwn (routed port)]
      refine Logged.bind_congr_value ?_
      dsimp only
      rw [ih _ (routed.setQueue suffix)]

/-- Where every sample waits at its own port, a poll goes by the ports of the samples. -/
theorem next_eq_nextOwn {adapter : Adapter} (routed : adapter.Routed) :
    poller.next adapter = poller.nextOwn adapter :=
  poller.drainPorts_eq_drainPortsOwn routed Port.all

end Agreement

section Origins

variable {first poller : Poller} {waiting : List Sample} {port : Port}

/-- The poller holds no axis but the one held at first or that of a waiting sample. -/
def Holding (first : Poller) (waiting : List Sample) (poller : Poller) : Prop :=
  ∀ half, poller.held = some half → HeldFrom first waiting half

/-- A poll keeps to the axis held at first and the waiting samples. -/
structure Made (first : Poller) (waiting : List Sample) {Rest : Type} (outcome : Outcome Rest) :
    Prop where
  holding : Holding first waiting outcome.poller
  bound : ∀ binding, outcome.binding = some binding →
    ∃ sample, BoundFrom first waiting sample binding

theorem Holding.offer {sample : Sample} {result : Poller × Option Params}
    (holding : Holding first waiting poller) (member : sample ∈ waiting)
    (own : sample.port = port.val) (offered : Offered port sample poller result) :
    Holding first waiting result.1 := by
  cases offered with
  | passed => exact holding
  | bound binding made => exact holding
  | held axis axisAt =>
      intro half halfAt
      cases halfAt
      exact .inr ⟨sample, member, own.symm, axisAt⟩
  | paired axisX axisY axisAt different =>
      intro half halfAt
      cases halfAt

theorem Holding.boundFrom {sample : Sample} {after : Poller} {binding : Params}
    (holding : Holding first waiting poller) (member : sample ∈ waiting)
    (own : sample.port = port.val)
    (offer : (poller.offer port sample).value = (after, some binding)) :
    BoundFrom first waiting sample binding := by
  have offered := poller.offered port sample
  rw [offer] at offered
  have completes : (poller.offerOwn sample).value = (after, some binding) := by
    rw [poller.offerOwn_eq own, offer]
  cases offered with
  | bound binding made =>
      have portAt := Binding.get?_port_of_ofSample? made
      exact ⟨member, own ▸ portAt, _, _, completes, fun half halfAt => nomatch halfAt⟩
  | paired axisX axisY axisAt different =>
      refine ⟨member, ?_, _, _, completes, fun half halfAt => ⟨?_, holding half halfAt⟩⟩
      · rw [own]
        simp +decide [Params.get?, Binding.entries_ofStick, List.lookup_cons]
      · cases halfAt
        exact own.symm

theorem Holding.drained {queue : List Sample} {outcome : Outcome (List Sample)}
    (holding : Holding first waiting poller) (members : ∀ sample ∈ queue, sample ∈ waiting)
    (own : ∀ sample ∈ queue, sample.port = port.val) (drained : Drained port poller queue outcome) :
    Made first waiting outcome := by
  induction drained with
  | empty => exact ⟨holding, fun _ made => nomatch made⟩
  | @passed poller next sample rest outcome offer later ih =>
      have offered := poller.offered port sample
      rw [offer] at offered
      have kept := holding.offer (members _ List.mem_cons_self) (own _ List.mem_cons_self) offered
      exact ih kept (fun other member => members other (List.mem_cons_of_mem _ member))
        fun other member => own other (List.mem_cons_of_mem _ member)
  | @made poller next sample binding rest offer =>
      have offered := poller.offered port sample
      rw [offer] at offered
      have member := members _ List.mem_cons_self
      have ownPort := own _ List.mem_cons_self
      refine ⟨holding.offer member ownPort offered, fun other made => ⟨sample, ?_⟩⟩
      cases made
      exact holding.boundFrom member ownPort offer

theorem Holding.portsDrained {adapter : Adapter} {ports : List Port} {outcome : Outcome Adapter}
    (holding : Holding first waiting poller)
    (members : ∀ port, ∀ sample ∈ adapter.queue port, sample ∈ waiting)
    (routed : adapter.Routed) (drained : PortsDrained poller adapter ports outcome) :
    Made first waiting outcome := by
  induction drained with
  | done => exact ⟨holding, fun _ made => nomatch made⟩
  | @passed poller next adapter port ports outcome drained later ih =>
      have made := holding.drained (members port) (routed port) drained
      refine ih made.holding (fun other sample member => ?_) (routed.setQueue drained.suffix)
      exact members other sample
        ((adapter.queue_setQueue_suffix port drained.suffix other).mem member)
  | made ports drained =>
      have made := holding.drained (members _) (routed _) drained
      exact ⟨made.holding, made.bound⟩

/-- Where every sample waits at its own port, a poll binds and holds waiting samples for the
ports that they name. -/
theorem made_next (poller : Poller) {adapter : Adapter} (routed : adapter.Routed) :
    Made poller adapter.waiting (poller.next adapter).value :=
  Holding.portsDrained (fun _ halfAt => .inl halfAt) (fun _ _ => Adapter.mem_waiting) routed
    (poller.portsDrained adapter Port.all)

end Origins

end Poller

end PadCapture
