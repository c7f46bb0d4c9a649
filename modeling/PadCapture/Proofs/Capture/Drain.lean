import PadCapture.Capture.Poller
import PadCapture.Proofs.Adapter.Queues
import Mathlib.Order.Fin.Basic
import Mathlib.Order.WellFounded

/-!
# Taking samples from queues

A poll offers waiting samples to its poller, port by port.  The lemmas here follow
a poll past samples and ports that leave the poller as it is, and stop it at the
first sample that makes a binding.  They hold for every kind of poller.
-/

namespace PadCapture.Poller

variable (poller : Poller) (port : Port) (adapter : Adapter)

/-- The sample neither changes the poller nor makes a binding. -/
def Passes (sample : Sample) : Prop := (poller.offer port sample).value = (poller, none)

/-- Everything that offering a sample can do. -/
inductive Offered (port : Port) (sample : Sample) : Poller → Poller × Option Params → Prop where
  | passed (poller : Poller) : Offered port sample poller (poller, none)
  | bound (binding : Params) (made : Binding.ofSample? port sample = some binding) :
      Offered port sample .button (.button, some binding)
  | held (axis : Axis) (axisAt : sample.axis = some axis) :
      Offered port sample (.analog none) (.analog (some ⟨axis, port.val⟩), none)
  | paired (axisX axisY : Axis) (axisAt : sample.axis = some axisY) (different : axisX ≠ axisY) :
      Offered port sample (.analog (some ⟨axisX, port.val⟩))
        (.analog none, some (Binding.ofStick port axisX axisY))

theorem offered (sample : Sample) :
    Offered port sample poller (poller.offer port sample).value := by
  cases poller with
  | button =>
      cases made : Binding.ofSample? port sample with
      | none =>
          rw [offer, made]
          exact .passed _
      | some binding =>
          rw [offer, made]
          exact .bound binding made
  | analog held =>
      cases axisAt : sample.axis with
      | none =>
          rw [offer, axisAt]
          exact .passed _
      | some axis =>
          rw [offer, axisAt]
          cases idle : isIdle sample with
          | true => exact .passed _
          | false =>
              rcases held with _ | ⟨axisX, number⟩
              · exact .held axis axisAt
              · by_cases fits : number = port.val ∧ axisX ≠ axis
                · obtain ⟨samePort, different⟩ := fits
                  subst samePort
                  simp only [pair, Bool.false_eq_true, if_false, decide_true, Bool.true_and,
                    bne_iff_ne, ne_eq, different, not_false_eq_true, if_true]
                  exact .paired axisX axis axisAt different
                · have refused : (decide (number = port.val) && axisX != axis) = false := by
                    simpa using fits
                  simp only [pair, refused, Bool.false_eq_true, if_false]
                  exact .passed _

section Queue

theorem drain_nil : (poller.drain port []).value = ⟨poller, none, []⟩ := rfl

theorem drain_cons_of_none {next : Poller} {sample : Sample}
    (offered : (poller.offer port sample).value = (next, none)) (rest : List Sample) :
    (poller.drain port (sample :: rest)).value = (next.drain port rest).value := by
  simp [drain, offered]

theorem drain_cons_of_some {next : Poller} {sample : Sample} {binding : Params}
    (offered : (poller.offer port sample).value = (next, some binding)) (rest : List Sample) :
    (poller.drain port (sample :: rest)).value = ⟨next, some binding, rest⟩ := by
  simp [drain, offered]

/-- What draining a queue comes to, sample by sample. -/
inductive Drained (port : Port) : Poller → List Sample → Outcome (List Sample) → Prop where
  | empty (poller : Poller) : Drained port poller [] ⟨poller, none, []⟩
  | passed {poller next : Poller} {sample : Sample} {rest : List Sample}
      {outcome : Outcome (List Sample)} (offered : (poller.offer port sample).value = (next, none))
      (later : Drained port next rest outcome) : Drained port poller (sample :: rest) outcome
  | made {poller next : Poller} {sample : Sample} {binding : Params} (rest : List Sample)
      (offered : (poller.offer port sample).value = (next, some binding)) :
      Drained port poller (sample :: rest) ⟨next, some binding, rest⟩

theorem drained (queue : List Sample) :
    Drained port poller queue (poller.drain port queue).value := by
  induction queue generalizing poller with
  | nil => exact .empty poller
  | cons sample rest ih =>
      rcases offered : (poller.offer port sample).value with ⟨next, made⟩
      cases made with
      | none =>
          rw [drain_cons_of_none _ _ offered]
          exact .passed offered (ih next)
      | some binding =>
          rw [drain_cons_of_some _ _ offered]
          exact .made rest offered

namespace Drained

variable {poller} {port} {queue : List Sample} {outcome : Outcome (List Sample)}

theorem suffix (drained : Drained port poller queue outcome) : outcome.rest <:+ queue := by
  induction drained with
  | empty => exact List.suffix_refl _
  | passed offered later ih => exact ih.trans (List.suffix_cons _ _)
  | made rest offered => exact List.suffix_cons _ rest

/-- Without a binding the whole queue is used up. -/
theorem rest_of_none (drained : Drained port poller queue outcome)
    (vain : outcome.binding = none) : outcome.rest = [] := by
  induction drained with
  | empty => rfl
  | passed offered later ih => exact ih vain
  | made rest offered => cases vain

theorem rest_shorter (drained : Drained port poller queue outcome) {binding : Params}
    (made : outcome.binding = some binding) : outcome.rest.length < queue.length := by
  induction drained with
  | empty => cases made
  | passed offered later ih => exact Nat.lt_succ_of_lt (ih made)
  | made rest offered => exact Nat.lt_succ_self rest.length

end Drained

theorem drain_append_of_passes {skipped : List Sample}
    (passes : ∀ sample ∈ skipped, poller.Passes port sample) (rest : List Sample) :
    (poller.drain port (skipped ++ rest)).value = (poller.drain port rest).value := by
  induction skipped with
  | nil => rfl
  | cons sample skipped ih =>
      rw [List.cons_append, drain_cons_of_none _ _ (passes sample List.mem_cons_self)]
      exact ih fun other member => passes other (List.mem_cons_of_mem _ member)

theorem drain_of_passes {queue : List Sample}
    (passes : ∀ sample ∈ queue, poller.Passes port sample) :
    (poller.drain port queue).value = ⟨poller, none, []⟩ := by
  have drained := drain_append_of_passes poller port passes []
  rwa [List.append_nil, drain_nil] at drained

end Queue

section Ports

theorem drainPorts_cons_of_none {next : Poller} {rest : List Sample}
    (drained : (poller.drain port (adapter.queue port)).value = ⟨next, none, rest⟩)
    (ports : List Port) :
    (poller.drainPorts adapter (port :: ports)).value =
      (next.drainPorts (adapter.setQueue port rest) ports).value := by
  simp [drainPorts, drained]

theorem drainPorts_cons_of_some {next : Poller} {binding : Params} {rest : List Sample}
    (drained : (poller.drain port (adapter.queue port)).value = ⟨next, some binding, rest⟩)
    (ports : List Port) :
    (poller.drainPorts adapter (port :: ports)).value =
      ⟨next, some binding, adapter.setQueue port rest⟩ := by
  simp [drainPorts, drained]

/-- What draining ports comes to, port by port. -/
inductive PortsDrained : Poller → Adapter → List Port → Outcome Adapter → Prop where
  | done (poller : Poller) (adapter : Adapter) :
      PortsDrained poller adapter [] ⟨poller, none, adapter⟩
  | passed {poller next : Poller} {adapter : Adapter} {port : Port} {ports : List Port}
      {outcome : Outcome Adapter}
      (drained : Drained port poller (adapter.queue port) ⟨next, none, []⟩)
      (later : PortsDrained next (adapter.setQueue port []) ports outcome) :
      PortsDrained poller adapter (port :: ports) outcome
  | made {poller next : Poller} {adapter : Adapter} {port : Port} {binding : Params}
      {rest : List Sample} (ports : List Port)
      (drained : Drained port poller (adapter.queue port) ⟨next, some binding, rest⟩) :
      PortsDrained poller adapter (port :: ports) ⟨next, some binding, adapter.setQueue port rest⟩

theorem portsDrained (ports : List Port) :
    PortsDrained poller adapter ports (poller.drainPorts adapter ports).value := by
  induction ports generalizing poller adapter with
  | nil => exact .done poller adapter
  | cons port ports ih =>
      have drained := poller.drained port (adapter.queue port)
      rcases drain : (poller.drain port (adapter.queue port)).value with ⟨next, made, rest⟩
      rw [drain] at drained
      cases made with
      | none =>
          rw [drainPorts_cons_of_none _ _ _ drain]
          have used : rest = [] := drained.rest_of_none rfl
          subst used
          exact .passed drained (ih next _)
      | some binding =>
          rw [drainPorts_cons_of_some _ _ _ drain]
          exact .made ports drained

namespace PortsDrained

variable {poller} {adapter} {ports : List Port} {outcome : Outcome Adapter}

/-- A poll takes samples only from the fronts of the queues. -/
theorem queue_suffix (drained : PortsDrained poller adapter ports outcome) (own : Port) :
    outcome.rest.queue own <:+ adapter.queue own := by
  induction drained with
  | done => exact List.suffix_refl _
  | passed drained later ih =>
      exact ih.trans (Adapter.queue_setQueue_suffix _ _ List.nil_suffix own)
  | made ports drained => exact Adapter.queue_setQueue_suffix _ _ drained.suffix own

theorem openSessions (drained : PortsDrained poller adapter ports outcome) :
    outcome.rest.openSessions = adapter.openSessions := by
  induction drained with
  | done => rfl
  | passed drained later ih => rw [ih, Adapter.openSessions_setQueue]
  | made ports drained => exact Adapter.openSessions_setQueue _ _ _

theorem state (drained : PortsDrained poller adapter ports outcome) (own : Port) :
    outcome.rest.state own = adapter.state own := by
  induction drained with
  | done => rfl
  | passed drained later ih => rw [ih, Adapter.state_setQueue]
  | made ports drained => exact Adapter.state_setQueue _ _ _ _

/-- A poll in vain empties all queues. -/
theorem queue_of_none (drained : PortsDrained poller adapter ports outcome)
    (vain : outcome.binding = none) {own : Port}
    (visited : own ∈ ports ∨ adapter.queue own = []) : outcome.rest.queue own = [] := by
  induction drained with
  | done => exact visited.resolve_left List.not_mem_nil
  | @passed _ _ adapter port ports _ drained later ih =>
      apply ih vain
      by_cases same : own = port
      · right
        rw [same, Adapter.queue_setQueue_self]
      · rw [Adapter.queue_setQueue_of_ne _ _ same]
        exact visited.imp_left fun member => (List.mem_cons.mp member).resolve_left same
  | made ports drained => cases vain

/-- A binding is made of a sample that a queue lacks afterwards. -/
theorem exists_shorter (drained : PortsDrained poller adapter ports outcome) {binding : Params}
    (made : outcome.binding = some binding) :
    ∃ own, (outcome.rest.queue own).length < (adapter.queue own).length := by
  induction drained with
  | done => cases made
  | @passed _ _ adapter port _ _ drained later ih =>
      obtain ⟨own, shorter⟩ := ih made
      have emptied := adapter.queue_setQueue_suffix port List.nil_suffix own
      exact ⟨own, Nat.lt_of_lt_of_le shorter emptied.length_le⟩
  | @made _ _ adapter port _ rest ports drained =>
      refine ⟨port, ?_⟩
      rw [Adapter.queue_setQueue_self]
      exact drained.rest_shorter rfl

end PortsDrained

/-- Ports at which every sample passes are emptied on the way. -/
theorem drainPorts_append_of_passes (skipped : List Port)
    (passes : ∀ port ∈ skipped, ∀ sample ∈ adapter.queue port, poller.Passes port sample)
    (ports : List Port) :
    (poller.drainPorts adapter (skipped ++ ports)).value =
      (poller.drainPorts (adapter.emptiedAt skipped) ports).value := by
  induction skipped generalizing adapter with
  | nil => rfl
  | cons port skipped ih =>
      have drained := drain_of_passes poller port (passes port List.mem_cons_self)
      rw [List.cons_append, drainPorts_cons_of_none _ _ _ drained, Adapter.emptiedAt]
      apply ih
      intro other member sample waiting
      by_cases same : other = port
      · subst same
        simp at waiting
      · rw [Adapter.queue_setQueue_of_ne _ _ same] at waiting
        exact passes other (List.mem_cons_of_mem _ member) sample waiting

/-- A poll that every waiting sample passes empties all queues. -/
theorem next_of_passes
    (passes : ∀ port, ∀ sample ∈ adapter.queue port, poller.Passes port sample) :
    (poller.next adapter).value = ⟨poller, none, adapter.emptied⟩ := by
  have drained := drainPorts_append_of_passes poller adapter Port.all
    (fun port _ => passes port) []
  rw [List.append_nil, Adapter.emptiedAt_all] at drained
  exact drained

end Ports

/-- A poll whose poller passes all lower ports stops at the port where its drain gives
a binding. -/
theorem next_of_complete {poller after : Poller} {port : Port} {adapter : Adapter}
    {binding : Params} {rest : List Sample}
    (passes : ∀ lower < port, ∀ sample ∈ adapter.queue lower, poller.Passes lower sample)
    (drained : (poller.drain port (adapter.queue port)).value = ⟨after, some binding, rest⟩) :
    (poller.next adapter).value = ⟨after, some binding,
      adapter.withQueues fun other =>
        if other < port then [] else if other = port then rest else adapter.queue other⟩ := by
  obtain ⟨below, above, split, mem_below⟩ := Port.all_split port
  have notBelow : port ∉ below :=
    fun member => Nat.lt_irrefl port.val ((mem_below port).mp member)
  have untouched : (adapter.emptiedAt below).queue port = adapter.queue port :=
    adapter.queue_emptiedAt_of_notMem port notBelow
  rw [next, split, drainPorts_append_of_passes poller adapter below
    (fun lower member => passes lower ((mem_below lower).mp member)),
    drainPorts_cons_of_some poller port _ (untouched ▸ drained)]
  congr 1
  apply Adapter.eq_of_views
  · simp
  · intro other
    rw [Adapter.queue_withQueues]
    by_cases same : other = port
    · subst same
      simp
    · rw [Adapter.queue_setQueue_of_ne _ _ same]
      by_cases lower : other < port
      · rw [if_pos lower, Adapter.queue_emptiedAt_of_mem _ _ ((mem_below other).mpr lower)]
      · rw [if_neg lower, if_neg same,
          Adapter.queue_emptiedAt_of_notMem _ _ (mt (mem_below other).mp lower)]
  · simp

/-- What offering a sample does, if there is one. -/
def offer? (poller : Poller) (port : Port) : Option Sample → Poller × Option Params
  | none => (poller, none)
  | some sample => (poller.offer port sample).value

theorem drain_toList (sample? : Option Sample) :
    (poller.drain port sample?.toList).value =
      ⟨(poller.offer? port sample?).1, (poller.offer? port sample?).2, []⟩ := by
  cases sample? with
  | none => rfl
  | some sample =>
      rcases offered : (poller.offer port sample).value with ⟨next, made⟩
      cases made with
      | none =>
          rw [Option.toList_some, drain_cons_of_none _ _ offered, offer?, offered]
          rfl
      | some binding =>
          rw [Option.toList_some, drain_cons_of_some _ _ offered, offer?, offered]

/-- With at most one waiting sample a poll offers just this sample and leaves nothing. -/
theorem next_of_single {adapter : Adapter} {port : Port} {sample? : Option Sample}
    (own : adapter.queue port = sample?.toList)
    (others : ∀ other, other ≠ port → adapter.queue other = []) :
    ∃ rest, (poller.next adapter).value =
        ⟨(poller.offer? port sample?).1, (poller.offer? port sample?).2, rest⟩ ∧
      ∀ other, rest.queue other = [] := by
  obtain ⟨below, above, split, mem_below⟩ := Port.all_split port
  have notBelow : port ∉ below :=
    fun member => Nat.lt_irrefl port.val ((mem_below port).mp member)
  have emptyBelow : ∀ lower ∈ below, ∀ sample ∈ adapter.queue lower,
      poller.Passes lower sample := by
    intro lower member sample waiting
    rw [others lower fun same => notBelow (same ▸ member)] at waiting
    cases waiting
  have drained : (poller.drain port ((adapter.emptiedAt below).queue port)).value =
      ⟨(poller.offer? port sample?).1, (poller.offer? port sample?).2, []⟩ := by
    rw [adapter.queue_emptiedAt_of_notMem port notBelow, own]
    exact poller.drain_toList port sample?
  have used : ∀ other, ((adapter.emptiedAt below).setQueue port []).queue other = [] := by
    intro other
    by_cases same : other = port
    · rw [same, Adapter.queue_setQueue_self]
    · rw [Adapter.queue_setQueue_of_ne _ _ same]
      exact adapter.queue_emptiedAt_of_empty other below (others other same)
  rw [next, split, drainPorts_append_of_passes poller adapter below emptyBelow]
  cases made : (poller.offer? port sample?).2 with
  | some binding =>
      rw [made] at drained
      exact ⟨_, drainPorts_cons_of_some _ _ _ drained above, used⟩
  | none =>
      rw [made] at drained
      -- The poller may hold the sample's axis now, but at the higher ports nothing waits.
      have emptyAbove := drainPorts_append_of_passes (poller.offer? port sample?).1
        ((adapter.emptiedAt below).setQueue port []) above
        (fun upper _ sample waiting => absurd (used upper ▸ waiting) List.not_mem_nil) []
      rw [List.append_nil] at emptyAbove
      exact ⟨_, (drainPorts_cons_of_none _ _ _ drained above).trans emptyAbove,
        fun other => Adapter.queue_emptiedAt_of_empty _ other above (used other)⟩

theorem queue_next_suffix (port : Port) :
    (poller.next adapter).value.rest.queue port <:+ adapter.queue port :=
  (poller.portsDrained adapter Port.all).queue_suffix port

@[simp] theorem openSessions_next :
    (poller.next adapter).value.rest.openSessions = adapter.openSessions :=
  (poller.portsDrained adapter Port.all).openSessions

@[simp] theorem state_next (port : Port) :
    (poller.next adapter).value.rest.state port = adapter.state port :=
  (poller.portsDrained adapter Port.all).state port

/-- Of an adapter a poll knows only the queues. -/
theorem drainPorts_congr {first second : Adapter}
    (queues : ∀ port, first.queue port = second.queue port) (ports : List Port) :
    (poller.drainPorts first ports).value.poller = (poller.drainPorts second ports).value.poller ∧
      (poller.drainPorts first ports).value.binding =
        (poller.drainPorts second ports).value.binding ∧
      ∀ port, (poller.drainPorts first ports).value.rest.queue port =
        (poller.drainPorts second ports).value.rest.queue port := by
  induction ports generalizing poller first second with
  | nil => exact ⟨rfl, rfl, queues⟩
  | cons port ports ih =>
      rcases drained : (poller.drain port (first.queue port)).value with ⟨next, made, rest⟩
      have alike := drained
      rw [queues port] at alike
      have written (other : Port) :
          (first.setQueue port rest).queue other = (second.setQueue port rest).queue other := by
        by_cases same : other = port
        · subst same
          simp
        · rw [Adapter.queue_setQueue_of_ne _ _ same, Adapter.queue_setQueue_of_ne _ _ same,
            queues other]
      cases made with
      | none =>
          rw [drainPorts_cons_of_none _ _ _ drained, drainPorts_cons_of_none _ _ _ alike]
          exact ih next written
      | some binding =>
          rw [drainPorts_cons_of_some _ _ _ drained, drainPorts_cons_of_some _ _ _ alike]
          exact ⟨rfl, rfl, written⟩

/-- A wanted sample in a queue has a first one like it. -/
theorem exists_first {wanted : Sample → Prop} [DecidablePred wanted] {queue : List Sample}
    (present : ∃ sample ∈ queue, wanted sample) :
    ∃ skipped first rest, queue = skipped ++ first :: rest ∧
      (∀ sample ∈ skipped, ¬ wanted sample) ∧ wanted first := by
  have found : (queue.find? fun sample => decide (wanted sample)).isSome := by
    simpa using present
  obtain ⟨first, firstAt⟩ := Option.isSome_iff_exists.mp found
  obtain ⟨wantedFirst, skipped, rest, split, before⟩ :=
    List.find?_eq_some_iff_append.mp firstAt
  exact ⟨skipped, first, rest, split, by simpa using before, by simpa using wantedFirst⟩

/-- Where wanted samples are waiting, one of them is the first one at the lowest port. -/
theorem exists_first_at_lowest {wanted : Sample → Prop} [DecidablePred wanted]
    {adapter : Adapter} (somewhere : ∃ port, ∃ sample ∈ adapter.queue port, wanted sample) :
    ∃ port, (∀ lower < port, ∀ sample ∈ adapter.queue lower, ¬ wanted sample) ∧
      ∃ skipped first rest, adapter.queue port = skipped ++ first :: rest ∧
        (∀ sample ∈ skipped, ¬ wanted sample) ∧ wanted first := by
  obtain ⟨port, present, lowest⟩ := WellFounded.has_min wellFounded_lt
    {port : Port | ∃ sample ∈ adapter.queue port, wanted sample} somewhere
  refine ⟨port, ?_, exists_first present⟩
  intro lower below sample member wantedSample
  exact lowest lower ⟨sample, member, wantedSample⟩ below

end PadCapture.Poller
