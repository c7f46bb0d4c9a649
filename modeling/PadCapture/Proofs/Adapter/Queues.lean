import PadCapture.Adapter.Basic

/-!
# What an adapter shows

An adapter is known by the state and the queue at each port and by its number of
open sessions.  This file says what every operation does to these three, so that
no later proof opens the slots.
-/

namespace PadCapture

/-- Two tables with the same value for every port are equal. -/
theorem PerPort.eq_of_get_eq {α : Type} {first second : PerPort α}
    (same : ∀ port, first.get port = second.get port) : first = second := by
  obtain ⟨firstValues⟩ := first
  obtain ⟨secondValues⟩ := second
  congr 1
  apply Vector.ext
  intro index bound
  exact same ⟨index, bound⟩

namespace Port

theorem val_of_ofNat? {number : Nat} {port : Port} (known : ofNat? number = some port) :
    number = port.val := by
  unfold ofNat? at known
  split at known
  · cases known
    rfl
  · cases known

/-- Every port splits the order of ports into the lower and the higher ones. -/
theorem all_split (port : Port) :
    ∃ below above, all = below ++ port :: above ∧ (∀ other, other ∈ below ↔ other < port) := by
  refine ⟨all.take port.val, all.drop (port.val + 1), ?_⟩
  revert port
  decide

end Port

namespace Adapter

variable (adapter : Adapter) (port : Port)

theorem eq_of_views {first second : Adapter}
    (states : ∀ port, first.state port = second.state port)
    (queues : ∀ port, first.queue port = second.queue port)
    (openSessions : first.openSessions = second.openSessions) : first = second := by
  obtain ⟨firstSlots, firstOpen⟩ := first
  obtain ⟨secondSlots, secondOpen⟩ := second
  have slots : firstSlots = secondSlots := by
    apply PerPort.eq_of_get_eq
    intro port
    have sameState := states port
    have sameQueue := queues port
    simp only [state, queue] at sameState sameQueue
    cases firstAt : firstSlots.get port
    cases secondAt : secondSlots.get port
    simp_all
  change firstOpen = secondOpen at openSessions
  rw [slots, openSessions]

@[simp] theorem queue_initial : initial.queue port = [] := by
  simp [initial, queue]

@[simp] theorem state_initial : initial.state port = .idle := by
  simp [initial, state]

@[simp] theorem queue_setQueue_self (queue : List Sample) :
    (adapter.setQueue port queue).queue port = queue := by
  simp [setQueue, Adapter.queue]

theorem queue_setQueue_of_ne {other : Port} (different : other ≠ port) (queue : List Sample) :
    (adapter.setQueue port queue).queue other = adapter.queue other := by
  simp [setQueue, Adapter.queue, PerPort.get_set_of_ne _ different]

@[simp] theorem state_setQueue (queue : List Sample) (other : Port) :
    (adapter.setQueue port queue).state other = adapter.state other := by
  by_cases same : other = port
  · subst same
    simp [setQueue, state]
  · simp [setQueue, state, PerPort.get_set_of_ne _ same]

@[simp] theorem openSessions_setQueue (queue : List Sample) :
    (adapter.setQueue port queue).openSessions = adapter.openSessions := rfl

@[simp] theorem setQueue_queue : adapter.setQueue port (adapter.queue port) = adapter := by
  apply eq_of_views
  · simp
  · intro other
    by_cases same : other = port
    · rw [same, queue_setQueue_self]
    · rw [queue_setQueue_of_ne _ _ same]
  · rfl

theorem queue_setQueue_suffix {queue : List Sample} (shorter : queue <:+ adapter.queue port)
    (other : Port) : (adapter.setQueue port queue).queue other <:+ adapter.queue other := by
  by_cases same : other = port
  · subst same
    rwa [queue_setQueue_self]
  · simp only [queue_setQueue_of_ne _ _ same, List.suffix_refl]

@[simp] theorem queue_setState (state : PortState) (other : Port) :
    (adapter.setState port state).queue other = adapter.queue other := by
  by_cases same : other = port
  · subst same
    simp [setState, queue]
  · simp [setState, queue, PerPort.get_set_of_ne _ same]

@[simp] theorem state_setState_self (state : PortState) :
    (adapter.setState port state).state port = state := by
  simp [setState, Adapter.state]

@[simp] theorem openSessions_setState (state : PortState) :
    (adapter.setState port state).openSessions = adapter.openSessions := rfl

@[simp] theorem isConfiguring_setState (state : PortState) :
    (adapter.setState port state).isConfiguring = adapter.isConfiguring := rfl

@[simp] theorem queue_emptied : adapter.emptied.queue port = [] := by
  simp [emptied, queue]

@[simp] theorem state_emptied : adapter.emptied.state port = adapter.state port := by
  simp [emptied, state]

@[simp] theorem openSessions_emptied : adapter.emptied.openSessions = adapter.openSessions := rfl

@[simp] theorem queue_beginCapture : adapter.beginCapture.value.queue port = [] := by
  change adapter.emptied.queue port = []
  simp

@[simp] theorem queue_endCapture : adapter.endCapture.value.queue port = [] := by
  change ({ adapter with openSessions := adapter.openSessions - 1 } : Adapter).emptied.queue port
    = []
  simp

@[simp] theorem openSessions_beginCapture :
    adapter.beginCapture.value.openSessions = adapter.openSessions + 1 := rfl

@[simp] theorem openSessions_endCapture :
    adapter.endCapture.value.openSessions = adapter.openSessions - 1 := rfl

@[simp] theorem openSessions_update (number : Nat) (shown : PortState) :
    (adapter.update number shown).value.openSessions = adapter.openSessions := by
  unfold update
  split
  · rfl
  · dsimp only
    split <;> rfl

@[simp] theorem openSessions_push (sample : Sample) :
    (adapter.push sample).value.openSessions = adapter.openSessions := by
  unfold push
  split
  · rfl
  · split <;> rfl

theorem isConfiguring_iff : adapter.isConfiguring = true ↔ 0 < adapter.openSessions := by
  simp [isConfiguring]

/-- The sample that a published state leaves at a port. -/
def acceptedState? (number : Nat) (shown : PortState) : Option Sample :=
  if adapter.isConfiguring ∧ number = port.val then Sample.ofState? number shown else none

/-- The finished sample, if it is accepted at a port. -/
def acceptedSample? (sample : Sample) : Option Sample :=
  if adapter.isConfiguring ∧ sample.port = port.val then some sample else none

theorem queue_enqueue_self (sample : Sample) :
    (adapter.enqueue port sample).queue port = adapter.queue port ++ [sample] := by
  simp [enqueue]

theorem queue_enqueue_of_ne {other : Port} (different : other ≠ port) (sample : Sample) :
    (adapter.enqueue port sample).queue other = adapter.queue other := by
  simp [enqueue, queue_setQueue_of_ne _ _ different]

theorem queue_update (number : Nat) (shown : PortState) :
    (adapter.update number shown).value.queue port =
      adapter.queue port ++ (adapter.acceptedState? port number shown).toList := by
  unfold update acceptedState?
  cases known : Port.ofNat? number with
  | none =>
      have foreign : number ≠ port.val := by
        intro same
        simp [same] at known
      simp [foreign]
  | some slot =>
      have number_eq : number = slot.val := Port.val_of_ofNat? known
      subst number_eq
      cases configuring : adapter.isConfiguring with
      | false => simp [configuring]
      | true =>
          cases reported : Sample.ofState? slot.val shown with
          | none => simp [configuring]
          | some sample =>
              by_cases same : slot = port
              · subst same
                simp [configuring, queue_enqueue_self]
              · have apart : slot.val ≠ port.val := fun equal => same (Fin.ext equal)
                simp [configuring, apart, queue_enqueue_of_ne _ _ (Ne.symm same)]

/-- In capture mode with empty queues only the sample of an update is waiting. -/
theorem queue_update_of_empty (isConfiguring : adapter.isConfiguring = true)
    (empty : ∀ other, adapter.queue other = []) (port : Port) (shown : PortState) :
    (adapter.update port.val shown).value.queue port =
        (Sample.ofState? port.val shown).toList ∧
      ∀ other, other ≠ port → (adapter.update port.val shown).value.queue other = [] := by
  constructor
  · rw [queue_update, empty, acceptedState?, if_pos ⟨isConfiguring, rfl⟩, List.nil_append]
  · intro other different
    have apart : port.val ≠ other.val := fun same => different (Fin.ext same.symm)
    rw [queue_update, empty, acceptedState?, if_neg (fun both => apart both.2)]
    rfl

theorem queue_push (sample : Sample) :
    (adapter.push sample).value.queue port =
      adapter.queue port ++ (adapter.acceptedSample? port sample).toList := by
  unfold push acceptedSample?
  cases known : Port.ofNat? sample.port with
  | none =>
      have foreign : sample.port ≠ port.val := by
        intro same
        simp [same] at known
      simp [foreign]
  | some slot =>
      have number_eq : sample.port = slot.val := Port.val_of_ofNat? known
      cases configuring : adapter.isConfiguring with
      | false => simp
      | true =>
          by_cases same : slot = port
          · subst same
            simp [number_eq, queue_enqueue_self]
          · have apart : slot.val ≠ port.val := fun equal => same (Fin.ext equal)
            simp [number_eq, apart, queue_enqueue_of_ne _ _ (Ne.symm same)]

theorem state_update_self (shown : PortState) :
    (adapter.update port.val shown).value.state port = shown := by
  unfold update
  rw [Port.ofNat?_val]
  dsimp only
  split <;> simp [enqueue]

theorem state_setState_of_ne {other : Port} (different : other ≠ port) (shown : PortState) :
    (adapter.setState port shown).state other = adapter.state other := by
  simp [setState, Adapter.state, PerPort.get_set_of_ne _ different]

@[simp] theorem state_enqueue (sample : Sample) (other : Port) :
    (adapter.enqueue port sample).state other = adapter.state other := by
  simp [enqueue]

/-- An update reaches the state of its own port only. -/
theorem state_update (number : Nat) (shown : PortState) :
    (adapter.update number shown).value.state port =
      if number = port.val then shown else adapter.state port := by
  by_cases own : number = port.val
  · rw [if_pos own, own, state_update_self]
  · rw [if_neg own]
    unfold update
    cases known : Port.ofNat? number with
    | none => rfl
    | some slot =>
        have different : port ≠ slot := by
          rintro rfl
          exact own (Port.val_of_ofNat? known)
        dsimp only
        split <;> simp [state_setState_of_ne _ _ different]

@[simp] theorem state_push (sample : Sample) :
    (adapter.push sample).value.state port = adapter.state port := by
  unfold push
  split
  · rfl
  · split
    · exact state_enqueue _ _ _ _
    · rfl

@[simp] theorem state_beginCapture :
    adapter.beginCapture.value.state port = adapter.state port := by
  change adapter.emptied.state port = adapter.state port
  simp

@[simp] theorem state_endCapture : adapter.endCapture.value.state port = adapter.state port := by
  change ({ adapter with openSessions := adapter.openSessions - 1 } : Adapter).emptied.state port
    = adapter.state port
  rw [state_emptied]
  rfl

/-- The adapter with other queues at all ports. -/
def withQueues (queues : Port → List Sample) : Adapter :=
  { adapter with slots := ⟨Vector.ofFn fun port => ⟨adapter.state port, queues port⟩⟩ }

@[simp] theorem queue_withQueues (queues : Port → List Sample) :
    (adapter.withQueues queues).queue port = queues port := by
  simp [withQueues, queue, PerPort.get]

@[simp] theorem state_withQueues (queues : Port → List Sample) :
    (adapter.withQueues queues).state port = adapter.state port := by
  simp [withQueues, state, PerPort.get]

@[simp] theorem openSessions_withQueues (queues : Port → List Sample) :
    (adapter.withQueues queues).openSessions = adapter.openSessions := rfl

/-- The adapter with empty queues at the given ports. -/
def emptiedAt (adapter : Adapter) : List Port → Adapter
  | [] => adapter
  | port :: ports => (adapter.setQueue port []).emptiedAt ports

theorem queue_emptiedAt_of_notMem {ports : List Port} (absent : port ∉ ports) :
    (adapter.emptiedAt ports).queue port = adapter.queue port := by
  induction ports generalizing adapter with
  | nil => rfl
  | cons first rest ih =>
      obtain ⟨different, absentRest⟩ := not_or.mp (mt List.mem_cons.mpr absent)
      rw [emptiedAt, ih _ absentRest, queue_setQueue_of_ne _ _ different]

theorem queue_emptiedAt_of_mem {ports : List Port} (member : port ∈ ports) :
    (adapter.emptiedAt ports).queue port = [] := by
  induction ports generalizing adapter with
  | nil => cases member
  | cons first rest ih =>
      rw [emptiedAt]
      by_cases later : port ∈ rest
      · exact ih _ later
      · have same : port = first := (List.mem_cons.mp member).resolve_right later
        rw [queue_emptiedAt_of_notMem _ _ later, same, queue_setQueue_self]

theorem queue_emptiedAt_of_empty (ports : List Port) (empty : adapter.queue port = []) :
    (adapter.emptiedAt ports).queue port = [] := by
  by_cases member : port ∈ ports
  · exact queue_emptiedAt_of_mem _ _ member
  · rw [queue_emptiedAt_of_notMem _ _ member, empty]

@[simp] theorem state_emptiedAt (ports : List Port) :
    (adapter.emptiedAt ports).state port = adapter.state port := by
  induction ports generalizing adapter with
  | nil => rfl
  | cons first rest ih => rw [emptiedAt, ih, state_setQueue]

@[simp] theorem openSessions_emptiedAt (ports : List Port) :
    (adapter.emptiedAt ports).openSessions = adapter.openSessions := by
  induction ports generalizing adapter with
  | nil => rfl
  | cons first rest ih => rw [emptiedAt, ih, openSessions_setQueue]

/-- What was put into a queue does not matter once the queue is written again. -/
theorem setQueue_emptiedAt_setQueue (ports : List Port) (older newer : List Sample) :
    ((adapter.setQueue port older).emptiedAt ports).setQueue port newer =
      (adapter.emptiedAt ports).setQueue port newer := by
  apply eq_of_views
  · simp
  · intro other
    by_cases same : other = port
    · subst same
      simp
    · rw [queue_setQueue_of_ne _ _ same, queue_setQueue_of_ne _ _ same]
      by_cases member : other ∈ ports
      · rw [queue_emptiedAt_of_mem _ _ member, queue_emptiedAt_of_mem _ _ member]
      · rw [queue_emptiedAt_of_notMem _ _ member, queue_emptiedAt_of_notMem _ _ member,
          queue_setQueue_of_ne _ _ same]
  · simp

theorem emptiedAt_all : adapter.emptiedAt Port.all = adapter.emptied := by
  apply eq_of_views
  · simp
  · intro port
    rw [queue_emptiedAt_of_mem _ _ (Port.mem_all port), queue_emptied]
  · simp

end Adapter

end PadCapture
