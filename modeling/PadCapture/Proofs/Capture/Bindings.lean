import PadCapture.Proofs.Capture.Drain
import PadCapture.Proofs.Capture.Entries
import PadCapture.Proofs.Pad.Buttons
import Mathlib.Algebra.Order.BigOperators.Group.Finset

/-!
# Bindings of whole queues

Run over all samples of a port without a stop, a poller makes a list of bindings.  A poll
hands out the first of them and leaves behind what makes the others.  This holds at each
port for itself as long as a poller has nothing to remember, and at a port whose samples
are the only ones also for a poller that holds an axis.
-/

namespace PadCapture

namespace Binding

/-- The binding is for an input of the port. -/
def isAt (port : Port) (binding : Params) : Bool :=
  binding.get? "port" = some (Numeral.natText port)

theorem natText_port_inj {port other : Port} (same : Numeral.natText port = Numeral.natText other) :
    port = other := by
  revert same
  revert port other
  decide

theorem isAt_of_ofSample? {port : Port} {sample : Sample} {binding : Params}
    (made : ofSample? port sample = some binding) (own : Port) :
    isAt own binding = decide (port = own) := by
  rw [isAt, get?_port_of_ofSample? made, decide_eq_decide, Option.some.injEq]
  exact ⟨natText_port_inj, fun same => same ▸ rfl⟩

theorem isSome_ofSample?_iff (port : Port) (sample : Sample) :
    (ofSample? port sample).isSome ↔ sample.buttons.known.mask ≠ 0 ∨ sample.axis.isSome := by
  unfold ofSample?
  cases first : sample.buttons.first? with
  | none => simp [(Buttons.first?_eq_none_iff _).mp first]
  | some button =>
      have known : sample.buttons.known.mask ≠ 0 := by
        intro none_known
        rw [(Buttons.first?_eq_none_iff _).mpr none_known] at first
        cases first
      simp [known]

end Binding

namespace Poller

variable (poller : Poller) (port : Port) (adapter : Adapter)

theorem kind_fresh (kind : BindingKind) : (fresh kind).kind = kind := by
  cases kind <;> rfl

theorem kind_offer (sample : Sample) :
    (poller.offer port sample).value.1.kind = poller.kind := by
  have offered := poller.offered port sample
  generalize (poller.offer port sample).value = result at offered
  cases offered <;> rfl

theorem offer_of_button {poller : Poller} (button : poller.kind = .button) (sample : Sample) :
    (poller.offer port sample).value = (poller, Binding.ofSample? port sample) := by
  cases poller with
  | button =>
      rw [offer]
      cases Binding.ofSample? port sample <;> rfl
  | analog held => cases button

/-- All bindings that the poller makes of the samples of a port, without a stop. -/
def bindings (poller : Poller) (port : Port) : List Sample → List Params
  | [] => []
  | sample :: rest =>
      let offered := (poller.offer port sample).value
      offered.2.toList ++ offered.1.bindings port rest

theorem bindings_of_button {poller : Poller} (button : poller.kind = .button) (port : Port)
    (samples : List Sample) :
    poller.bindings port samples = samples.filterMap (Binding.ofSample? port) := by
  induction samples with
  | nil => rfl
  | cons sample rest ih =>
      rw [bindings, offer_of_button port button sample, List.filterMap_cons, ← ih]
      cases Binding.ofSample? port sample <;> rfl

/-- Whether a binding of a session counts for the port.  Of a button session only the
bindings for the port itself do. -/
def concerns (kind : BindingKind) (own : Port) (binding : Params) : Bool :=
  kind = .analog || Binding.isAt own binding

namespace Drained

variable {poller} {port} {queue : List Sample} {outcome : Outcome (List Sample)}

theorem kind (drained : Drained port poller queue outcome) :
    outcome.poller.kind = poller.kind := by
  induction drained with
  | empty => rfl
  | @passed poller next sample _ _ offered later ih =>
      have kept := poller.kind_offer port sample
      rw [offered] at kept
      exact ih.trans kept
  | @made poller next sample _ rest offered =>
      have kept := poller.kind_offer port sample
      rwa [offered] at kept

/-- Draining a queue hands out the first binding, and what is left makes the others,
whatever is accepted later. -/
theorem bindings (drained : Drained port poller queue outcome) (later : List Sample) :
    poller.bindings port (queue ++ later) =
      outcome.binding.toList ++ outcome.poller.bindings port (outcome.rest ++ later) := by
  induction drained with
  | empty => rfl
  | passed offered _ ih =>
      rw [← ih]
      simp [Poller.bindings, offered]
  | made rest offered => simp [Poller.bindings, offered]

/-- A button poller stays as it is, and its bindings are for the drained port. -/
theorem of_button (drained : Drained port poller queue outcome) (button : poller.kind = .button) :
    outcome.poller = poller ∧
      ∀ binding, outcome.binding = some binding →
        ∀ own, Binding.isAt own binding = decide (port = own) := by
  induction drained with
  | empty => exact ⟨rfl, fun binding made => by cases made⟩
  | @passed poller next sample _ _ offered _ ih =>
      rw [offer_of_button port button sample] at offered
      obtain ⟨rfl, _⟩ := Prod.mk.inj offered
      exact ih button
  | @made poller next sample binding _ offered =>
      rw [offer_of_button port button sample] at offered
      obtain ⟨rfl, made⟩ := Prod.mk.inj offered
      refine ⟨rfl, ?_⟩
      intro other same
      cases same
      exact Binding.isAt_of_ofSample? made

theorem concerns_self (drained : Drained port poller queue outcome) (binding : Params)
    (made : outcome.binding = some binding) : concerns poller.kind port binding = true := by
  cases kind : poller.kind with
  | analog => rfl
  | button =>
      have isAt := (drained.of_button kind).2 binding made port
      rw [concerns, isAt]
      simp

/-- Draining another port changes nothing for the own one, if the poller is a button
poller or there is nothing to drain. -/
theorem of_ne (drained : Drained port poller queue outcome) {own : Port} (different : port ≠ own)
    (quiet : poller.kind = .button ∨ queue = []) :
    outcome.poller = poller ∧
      ∀ binding, outcome.binding = some binding → concerns poller.kind own binding = false := by
  rcases quiet with button | empty
  · obtain ⟨same, isAt⟩ := drained.of_button button
    refine ⟨same, ?_⟩
    intro binding made
    rw [concerns, isAt binding made own, button]
    simp [different]
  · subst empty
    cases drained
    exact ⟨rfl, fun binding made => by cases made⟩

end Drained

namespace PortsDrained

variable {poller} {adapter} {ports : List Port} {outcome : Outcome Adapter}

theorem kind (drained : PortsDrained poller adapter ports outcome) :
    outcome.poller.kind = poller.kind := by
  induction drained with
  | done => rfl
  | passed drained _ ih => exact ih.trans drained.kind
  | made _ drained => exact drained.kind

/-- A poll hands out the first binding that its port's samples make, and what is left
makes the others, whatever is accepted later. -/
theorem bindings (drained : PortsDrained poller adapter ports outcome) {own : Port}
    (quiet : poller.kind = .button ∨ ∀ other, other ≠ own → adapter.queue other = [])
    (later : List Sample) :
    poller.bindings own (adapter.queue own ++ later) =
      outcome.binding.toList.filter (concerns poller.kind own) ++
        outcome.poller.bindings own (outcome.rest.queue own ++ later) := by
  induction drained with
  | done => rfl
  | @passed poller next adapter port ports outcome drained _ ih =>
      have kept : next.kind = poller.kind := drained.kind
      have quietAfter : next.kind = .button ∨
          ∀ other, other ≠ own → (adapter.setQueue port []).queue other = [] := by
        rw [kept]
        refine quiet.imp_right fun empty other different => ?_
        exact List.suffix_nil.mp (empty other different ▸
          adapter.queue_setQueue_suffix port List.nil_suffix other)
      have others := ih quietAfter
      rw [kept] at others
      -- The drained port is the own one, or draining it leaves the own samples as they are.
      by_cases same : port = own
      · subst same
        rw [Adapter.queue_setQueue_self] at others
        exact (drained.bindings later).trans others
      · obtain ⟨unchanged, _⟩ := drained.of_ne same (quiet.imp_right fun empty => empty port same)
        dsimp only at unchanged
        subst unchanged
        rwa [Adapter.queue_setQueue_of_ne _ _ (Ne.symm same)] at others
  | @made poller next adapter port binding rest ports drained =>
      by_cases same : port = own
      · subst same
        have split := drained.bindings later
        rw [split]
        simp [drained.concerns_self binding rfl]
      · obtain ⟨unchanged, foreign⟩ :=
          drained.of_ne same (quiet.imp_right fun empty => empty port same)
        dsimp only at unchanged
        subst unchanged
        simp [foreign binding rfl, Adapter.queue_setQueue_of_ne _ _ (Ne.symm same)]

end PortsDrained

/-- A poll that makes a binding leaves fewer samples than before. -/
theorem sum_length_next_lt {binding : Params}
    (made : (poller.next adapter).value.binding = some binding) :
    ∑ own, ((poller.next adapter).value.rest.queue own).length <
      ∑ own, (adapter.queue own).length := by
  obtain ⟨own, shorter⟩ := (poller.portsDrained adapter Port.all).exists_shorter made
  apply Finset.sum_lt_sum
  · exact fun other _ => (poller.queue_next_suffix adapter other).length_le
  · exact ⟨own, Finset.mem_univ own, shorter⟩

end Poller

end PadCapture
