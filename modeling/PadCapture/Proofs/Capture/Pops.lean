import PadCapture.Proofs.Capture.Drain
import Mathlib.Algebra.BigOperators.Fin

/-!
# Pops of a poll

Every sample that leaves a queue by a pop is noted.  A poll drains one port after the
other, and the pops that it notes while it drains a port are the samples that leave the
front of this port's queue.
-/

namespace PadCapture

def Event.isPop : Event → Bool
  | samplePopped _ => true
  | _ => false

namespace Logged

variable {α β : Type}

/-- The number of pops that an operation notes. -/
def pops (result : Logged α) : Nat := result.events.countP Event.isPop

@[simp] theorem pops_pure (a : α) : (pure a : Logged α).pops = 0 := rfl

@[simp] theorem pops_bind (first : Logged α) (next : α → Logged β) :
    (first >>= next).pops = first.pops + (next first.value).pops := by
  rw [pops, events_bind, List.countP_append]
  rfl

@[simp] theorem pops_note (event : Event) : (note event).pops = event.isPop.toNat := by
  cases isPop : event.isPop <;> simp [pops, note, isPop]

end Logged

namespace Adapter

variable (adapter : Adapter) (port : Port)

/-- A pop takes the first sample away, if there is one. -/
theorem queue_pop (other : Port) :
    (adapter.pop port).value.2.queue other =
      (adapter.queue other).drop (if port = other then (adapter.pop port).pops else 0) := by
  unfold pop
  cases waiting : adapter.queue port with
  | nil => simp
  | cons sample rest =>
      by_cases same : port = other
      · subst same
        simp [waiting, Event.isPop]
      · simp [same, queue_setQueue_of_ne _ _ (Ne.symm same)]

theorem pops_pop_le : (adapter.pop port).pops ≤ (adapter.queue port).length := by
  unfold pop
  cases adapter.queue port with
  | nil => exact Nat.le_refl 0
  | cons sample rest => simp [Event.isPop]

theorem pops_takeAll : (adapter.takeAll port).pops = (adapter.queue port).length := by
  simp [takeAll, Logged.pops, Event.isPop, Function.comp_def]

end Adapter

namespace Poller

variable (poller : Poller) (port : Port) (adapter : Adapter)

/-- Offering a sample pops nothing. -/
theorem pops_offer (sample : Sample) : (poller.offer port sample).pops = 0 := by
  cases poller with
  | button =>
      unfold offer
      cases Binding.ofSample? port sample with
      | none => simp [Event.isPop]
      | some binding => rfl
  | analog held =>
      unfold offer
      cases sample.axis with
      | none => rfl
      | some axis =>
          cases isIdle sample with
          | true => simp [Event.isPop]
          | false =>
              cases held with
              | none => simp [pair, Event.isPop]
              | some half =>
                  simp only [Bool.false_eq_true, if_false, pair]
                  split
                  · rfl
                  · simp [Event.isPop]

theorem pops_drain_cons_of_none {next : Poller} {sample : Sample}
    (offered : (poller.offer port sample).value = (next, none)) (rest : List Sample) :
    (poller.drain port (sample :: rest)).pops = (next.drain port rest).pops + 1 := by
  simp [drain, offered, pops_offer, Event.isPop, Nat.add_comm]

theorem pops_drain_cons_of_some {next : Poller} {sample : Sample} {binding : Params}
    (offered : (poller.offer port sample).value = (next, some binding)) (rest : List Sample) :
    (poller.drain port (sample :: rest)).pops = 1 := by
  simp [drain, offered, pops_offer, Event.isPop]

/-- Draining takes as many samples from the front of a queue as it notes pops. -/
theorem drain_rest_eq_drop (queue : List Sample) :
    (poller.drain port queue).pops ≤ queue.length ∧
      (poller.drain port queue).value.rest = queue.drop (poller.drain port queue).pops := by
  induction queue generalizing poller with
  | nil => exact ⟨Nat.le_refl 0, rfl⟩
  | cons sample rest ih =>
      rcases offered : (poller.offer port sample).value with ⟨next, made⟩
      cases made with
      | none =>
          obtain ⟨enough, rest_eq⟩ := ih next
          rw [pops_drain_cons_of_none _ _ offered, drain_cons_of_none _ _ offered]
          exact ⟨Nat.succ_le_succ enough, rest_eq⟩
      | some binding =>
          rw [pops_drain_cons_of_some _ _ offered, drain_cons_of_some _ _ offered]
          exact ⟨Nat.le_add_left 1 rest.length, rfl⟩

/-- The pops of a poll at one port, while the given ports are drained in order. -/
def popsAt (own : Port) (poller : Poller) (adapter : Adapter) : List Port → Nat
  | [] => 0
  | port :: ports =>
      let drained := poller.drain port (adapter.queue port)
      (if port = own then drained.pops else 0) +
        if drained.value.binding.isSome then 0
        else popsAt own drained.value.poller (adapter.setQueue port drained.value.rest) ports

/-- After a port has been drained, its queue lacks the popped samples. -/
theorem queue_setQueue_drain (own : Port) :
    (adapter.setQueue port (poller.drain port (adapter.queue port)).value.rest).queue own =
      (adapter.queue own).drop
        (if port = own then (poller.drain port (adapter.queue port)).pops else 0) := by
  by_cases same : port = own
  · subst same
    rw [if_pos rfl, Adapter.queue_setQueue_self]
    exact (drain_rest_eq_drop poller port (adapter.queue port)).2
  · rw [if_neg same, Adapter.queue_setQueue_of_ne _ _ (Ne.symm same), List.drop_zero]

theorem pops_drain_le (own : Port) :
    (if port = own then (poller.drain port (adapter.queue port)).pops else 0) ≤
      (adapter.queue own).length := by
  by_cases same : port = own
  · subst same
    rw [if_pos rfl]
    exact (drain_rest_eq_drop poller port (adapter.queue port)).1
  · rw [if_neg same]
    exact Nat.zero_le _

/-- A poll takes the popped samples of every port from the front of its queue. -/
theorem queue_drainPorts_eq_drop (own : Port) (ports : List Port) :
    popsAt own poller adapter ports ≤ (adapter.queue own).length ∧
      (poller.drainPorts adapter ports).value.rest.queue own =
        (adapter.queue own).drop (popsAt own poller adapter ports) := by
  induction ports generalizing poller adapter with
  | nil => exact ⟨Nat.zero_le _, rfl⟩
  | cons port ports ih =>
      have here := queue_setQueue_drain poller port adapter own
      have here_le := pops_drain_le poller port adapter own
      rw [popsAt]
      rcases drained : (poller.drain port (adapter.queue port)).value with ⟨next, made, rest⟩
      rw [drained] at here
      cases made with
      | some binding =>
          rw [drainPorts_cons_of_some _ _ _ drained]
          simp only [Option.isSome_some, if_true, Nat.add_zero]
          exact ⟨here_le, here⟩
      | none =>
          obtain ⟨later_le, later⟩ := ih next (adapter.setQueue port rest)
          rw [drainPorts_cons_of_none _ _ _ drained]
          simp only [Option.isSome_none, Bool.false_eq_true, if_false]
          rw [here, List.drop_drop] at later
          rw [here, List.length_drop] at later_le
          exact ⟨by omega, later⟩

/-- Every pop that a poll notes is counted at one port. -/
theorem pops_drainPorts_eq_sum (ports : List Port) :
    (poller.drainPorts adapter ports).pops = ∑ own, popsAt own poller adapter ports := by
  induction ports generalizing poller adapter with
  | nil => simp [drainPorts, popsAt]
  | cons port ports ih =>
      simp only [popsAt, Finset.sum_add_distrib, Finset.sum_ite_eq, Finset.mem_univ, if_true]
      rw [drainPorts, Logged.pops_bind]
      congr 1
      dsimp only
      split
      · simp
      · exact ih _ _

end Poller

end PadCapture
