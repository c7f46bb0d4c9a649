import PadCapture.Proofs.Capture.Tracing
import Mathlib.Data.List.Infix

/-!
# Sources of captured bindings

While a session polls, every waiting sample was accepted after the session began, no
waiting sample has been used before, and a half binding comes from an accepted sample
of its own port.  Taking one sample keeps this, and so does a whole poll; a binding
that a poll makes is genuine and uses only samples that were not used before.
-/

namespace PadCapture.Provenance

open Numeral

variable {accepted : Port → List Sample} {begun : Port → Nat} {used : Mark → Prop}
  {adapter : Adapter} {port : Port} {tracer : Tracer} {sample : Sample} {rest : List Sample}

/-- The accepted sample at a mark. -/
def sampleAt? (accepted : Port → List Sample) (mark : Mark) : Option Sample :=
  (accepted mark.port)[mark.index]?

/-- How many of the samples accepted at a port no longer wait there. -/
def taken (accepted : Port → List Sample) (adapter : Adapter) (port : Port) : Nat :=
  (accepted port).length - (adapter.queue port).length

/-- A binding of the given kind was made from just the samples of its origin, which were
accepted after the first `begun` ones of their port. -/
inductive Genuine (accepted : Port → List Sample) (begun : Port → Nat) :
    BindingKind → Params → Origin → Prop where
  | button (mark : Mark) (sample : Sample) (binding : Params)
      (sampleAt : sampleAt? accepted mark = some sample)
      (since : begun mark.port ≤ mark.index)
      (made : Binding.ofSample? mark.port sample = some binding)
      (port : binding.get? "port" = some (natText mark.port)) :
      Genuine accepted begun .button binding (.one mark)
  | stick (first second : Mark) (firstSample secondSample : Sample) (axisX axisY : Axis)
      (binding : Params) (samePort : first.port = second.port)
      (order : first.index < second.index)
      (firstAt : sampleAt? accepted first = some firstSample)
      (secondAt : sampleAt? accepted second = some secondSample)
      (since : begun first.port ≤ first.index)
      (axisXAt : firstSample.axis = some axisX) (axisYAt : secondSample.axis = some axisY)
      (different : axisX ≠ axisY)
      (entries : binding.entries =
        [("axis_x", natText axisX.index), ("axis_y", natText axisY.index),
          ("engine", "gcpad"), ("port", natText first.port)]) :
      Genuine accepted begun .analog binding (.two first second)

/-- A tracer knows the source of its half binding, if it has one. -/
inductive Holds (accepted : Port → List Sample) (begun : Port → Nat) : Tracer → Prop where
  | button : Holds accepted begun ⟨.button, none⟩
  | free : Holds accepted begun ⟨.analog none, none⟩
  | half (mark : Mark) (sample : Sample) (axis : Axis)
      (sampleAt : sampleAt? accepted mark = some sample) (axisAt : sample.axis = some axis)
      (since : begun mark.port ≤ mark.index) :
      Holds accepted begun ⟨.analog (some ⟨axis, mark.port.val⟩), some mark⟩

theorem Holds.of_half {half : HalfBinding} {source : Option Mark}
    (holds : Holds accepted begun ⟨.analog (some half), source⟩) :
    ∃ mark sample, source = some mark ∧ half.port = mark.port.val ∧
      sampleAt? accepted mark = some sample ∧ sample.axis = some half.axis ∧
      begun mark.port ≤ mark.index := by
  cases holds with
  | half mark sample axis sampleAt axisAt since =>
      exact ⟨mark, sample, rfl, rfl, sampleAt, axisAt, since⟩

/-- The invariant of a poll, where others have used the samples at the marks in `used`. -/
structure Polling (accepted : Port → List Sample) (begun : Port → Nat) (used : Mark → Prop)
    (adapter : Adapter) (tracer : Tracer) : Prop where
  suffix : ∀ port, adapter.queue port <:+ accepted port
  begun_le : ∀ port, begun port ≤ taken accepted adapter port
  used_lt : ∀ mark, used mark → mark.index < taken accepted adapter mark.port
  holds : Holds accepted begun tracer
  source_lt : ∀ mark, tracer.source = some mark → mark.index < taken accepted adapter mark.port
  source_unused : ∀ mark, tracer.source = some mark → ¬ used mark

/-- A binding that a poll made, together with what it used up. -/
structure Made (accepted : Port → List Sample) (begun : Port → Nat) (used : Mark → Prop)
    (adapter : Adapter) (kind : BindingKind) (binding : Params) (origin : Origin) : Prop where
  genuine : Genuine accepted begun kind binding origin
  marks_lt : ∀ mark ∈ origin.marks, mark.index < taken accepted adapter mark.port
  marks_unused : ∀ mark ∈ origin.marks, ¬ used mark
  marks_nodup : origin.marks.Nodup

/-- What a poll by a session of the given kind leaves behind: the invariant, and perhaps
a new binding, after which no half binding is left. -/
structure Upheld (accepted : Port → List Sample) (begun : Port → Nat) (used : Mark → Prop)
    (adapter : Adapter) (kind : BindingKind) (tracer : Tracer)
    (made : Option (Params × Origin)) : Prop where
  polling : Polling accepted begun used adapter tracer
  sameKind : tracer.poller.kind = kind
  spent : made.isSome → tracer.source = none
  made : ∀ binding origin, made = some (binding, origin) →
    Made accepted begun used adapter kind binding origin

/-- The samples that a new binding uses up, if there is one. -/
def madeMarks (made : Option (Params × Origin)) : List Mark :=
  match made with
  | none => []
  | some (_, origin) => origin.marks

namespace Upheld

variable {kind : BindingKind} {made : Option (Params × Origin)}

theorem of_none (polling : Polling accepted begun used adapter tracer) :
    Upheld accepted begun used adapter tracer.poller.kind tracer none :=
  ⟨polling, rfl, nofun, nofun⟩

variable (upheld : Upheld accepted begun used adapter kind tracer made)

include upheld

theorem madeMarks_lt {mark : Mark} (member : mark ∈ madeMarks made) :
    mark.index < taken accepted adapter mark.port := by
  cases made with
  | none => cases member
  | some pair => exact (upheld.made pair.1 pair.2 rfl).marks_lt mark member

theorem madeMarks_unused {mark : Mark} (member : mark ∈ madeMarks made) : ¬ used mark := by
  cases made with
  | none => cases member
  | some pair => exact (upheld.made pair.1 pair.2 rfl).marks_unused mark member

theorem madeMarks_nodup : (madeMarks made).Nodup := by
  cases made with
  | none => exact List.nodup_nil
  | some pair => exact (upheld.made pair.1 pair.2 rfl).marks_nodup

theorem source_notMem_madeMarks {mark : Mark} (sourceAt : tracer.source = some mark) :
    mark ∉ madeMarks made := by
  cases made with
  | none => exact List.not_mem_nil
  | some pair =>
      rw [upheld.spent rfl] at sourceAt
      cases sourceAt

end Upheld

section Head

variable {before : List Sample}

theorem taken_setQueue_self (queue : List Sample) :
    taken accepted (adapter.setQueue port queue) port = (accepted port).length - queue.length := by
  rw [taken, Adapter.queue_setQueue_self]

theorem taken_setQueue_of_ne {other : Port} (different : other ≠ port) (queue : List Sample) :
    taken accepted (adapter.setQueue port queue) other = taken accepted adapter other := by
  rw [taken, taken, Adapter.queue_setQueue_of_ne _ _ different]

/-- The mark of the sample at the head of a queue. -/
def headMark (accepted : Port → List Sample) (port : Port) (rest : List Sample) : Mark :=
  ⟨port, (accepted port).length - (rest.length + 1)⟩

theorem headMark_index (split : before ++ sample :: rest = accepted port) :
    (headMark accepted port rest).index = before.length := by
  have total := congrArg List.length split
  simp only [List.length_append, List.length_cons] at total
  simp only [headMark]
  omega

theorem taken_head (split : before ++ sample :: rest = accepted port) :
    taken accepted (adapter.setQueue port (sample :: rest)) port = before.length := by
  have total := congrArg List.length split
  simp only [List.length_append, List.length_cons] at total
  rw [taken_setQueue_self, List.length_cons]
  omega

theorem taken_tail (split : before ++ sample :: rest = accepted port) :
    taken accepted (adapter.setQueue port rest) port = before.length + 1 := by
  have total := congrArg List.length split
  simp only [List.length_append, List.length_cons] at total
  rw [taken_setQueue_self]
  omega

theorem taken_head_le_tail (split : before ++ sample :: rest = accepted port) (other : Port) :
    taken accepted (adapter.setQueue port (sample :: rest)) other ≤
      taken accepted (adapter.setQueue port rest) other := by
  by_cases same : other = port
  · subst same
    rw [taken_head split, taken_tail split]
    omega
  · rw [taken_setQueue_of_ne same, taken_setQueue_of_ne same]

theorem sampleAt?_headMark (split : before ++ sample :: rest = accepted port) :
    sampleAt? accepted (headMark accepted port rest) = some sample := by
  rw [sampleAt?, headMark_index split]
  change (accepted port)[before.length]? = some sample
  rw [← split]
  simp

end Head

namespace Polling

variable {before : List Sample}

theorem split_head
    (polling : Polling accepted begun used (adapter.setQueue port (sample :: rest)) tracer) :
    ∃ before, before ++ sample :: rest = accepted port := by
  have suffix := polling.suffix port
  rw [Adapter.queue_setQueue_self] at suffix
  exact suffix

theorem headMark_unused
    (polling : Polling accepted begun used (adapter.setQueue port (sample :: rest)) tracer)
    (split : before ++ sample :: rest = accepted port) :
    ¬ used (headMark accepted port rest) := by
  intro usedBefore
  have below := polling.used_lt _ usedBefore
  rw [headMark_index split] at below
  change before.length < taken accepted (adapter.setQueue port (sample :: rest)) port at below
  rw [taken_head split] at below
  omega

/-- The sample at the head was accepted after the session began. -/
theorem begun_le_headMark
    (polling : Polling accepted begun used (adapter.setQueue port (sample :: rest)) tracer)
    (split : before ++ sample :: rest = accepted port) :
    begun port ≤ (headMark accepted port rest).index := by
  have since := polling.begun_le port
  rwa [taken_head split, ← headMark_index split] at since

/-- Once the head is taken, a tracer may keep its source, drop it or use the head. -/
theorem advance
    (polling : Polling accepted begun used (adapter.setQueue port (sample :: rest)) tracer)
    (split : before ++ sample :: rest = accepted port) {next : Tracer}
    (holds : Holds accepted begun next)
    (source : ∀ mark, next.source = some mark →
      tracer.source = some mark ∨ mark = headMark accepted port rest) :
    Polling accepted begun used (adapter.setQueue port rest) next where
  suffix := by
    intro other
    by_cases same : other = port
    · subst same
      rw [Adapter.queue_setQueue_self, ← split]
      exact ((List.suffix_cons sample rest).trans (List.suffix_append before _))
    · have suffix := polling.suffix other
      rw [Adapter.queue_setQueue_of_ne _ _ same] at suffix
      rwa [Adapter.queue_setQueue_of_ne _ _ same]
  begun_le := fun other => (polling.begun_le other).trans (taken_head_le_tail split other)
  used_lt := fun mark usedBefore =>
    (polling.used_lt mark usedBefore).trans_le (taken_head_le_tail split mark.port)
  holds := holds
  source_lt := by
    intro mark sourceAt
    rcases source mark sourceAt with kept | head
    · exact (polling.source_lt mark kept).trans_le (taken_head_le_tail split mark.port)
    · subst head
      rw [headMark_index split]
      change before.length < taken accepted (adapter.setQueue port rest) port
      rw [taken_tail split]
      omega
  source_unused := by
    intro mark sourceAt
    rcases source mark sourceAt with kept | head
    · exact polling.source_unused mark kept
    · subst head
      exact polling.headMark_unused split

/-- A binding made by taking the head uses the head and, for a stick, the source of the
half binding. -/
theorem made_of_head
    (polling : Polling accepted begun used (adapter.setQueue port (sample :: rest)) tracer)
    (split : before ++ sample :: rest = accepted port) {kind : BindingKind} {binding : Params}
    (genuine : Genuine accepted begun kind binding
      (.ofSource tracer.source (headMark accepted port rest))) :
    Made accepted begun used (adapter.setQueue port rest) kind binding
      (.ofSource tracer.source (headMark accepted port rest)) := by
  have head_lt : (headMark accepted port rest).index <
      taken accepted (adapter.setQueue port rest) port := by
    rw [headMark_index split, taken_tail split]
    omega
  have head_unused := polling.headMark_unused split
  cases sourceAt : tracer.source with
  | none =>
      rw [sourceAt] at genuine
      refine ⟨genuine, ?_, ?_, by simp [Origin.ofSource, Origin.marks]⟩
      · intro mark member
        obtain rfl := List.mem_singleton.mp member
        exact head_lt
      · intro mark member
        obtain rfl := List.mem_singleton.mp member
        exact head_unused
  | some source =>
      rw [sourceAt] at genuine
      have source_lt := polling.source_lt source sourceAt
      have apart : source ≠ headMark accepted port rest := by
        intro same
        subst same
        rw [headMark_index split] at source_lt
        change before.length < taken accepted (adapter.setQueue port (sample :: rest)) port
          at source_lt
        rw [taken_head split] at source_lt
        omega
      refine ⟨genuine, ?_, ?_, by simp [Origin.ofSource, Origin.marks, apart]⟩
      · intro mark member
        rcases List.mem_pair.mp member with same | same
        · subst same
          exact source_lt.trans_le (taken_head_le_tail split mark.port)
        · subst same
          exact head_lt
      · intro mark member
        rcases List.mem_pair.mp member with same | same
        · subst same
          exact polling.source_unused mark sourceAt
        · subst same
          exact head_unused

theorem take
    (polling : Polling accepted begun used (adapter.setQueue port (sample :: rest)) tracer)
    {offered : Tracer × Option (Params × Origin)}
    (offers : Tracer.Offered (headMark accepted port rest) sample tracer offered) :
    Upheld accepted begun used (adapter.setQueue port rest) tracer.poller.kind
      offered.1 offered.2 := by
  obtain ⟨before, split⟩ := polling.split_head
  have sampleAt := sampleAt?_headMark split
  have since := polling.begun_le_headMark split
  have holds := polling.holds
  cases offers with
  | passed =>
      exact .of_none (polling.advance split holds fun mark sourceAt => .inl sourceAt)
  | held source axis axisAt =>
      refine .of_none (polling.advance split (.half _ sample axis sampleAt axisAt since) ?_)
      intro mark sourceAt
      exact .inr (Option.some.inj sourceAt).symm
  | bound source binding made =>
      refine ⟨polling.advance split .button (fun mark sourceAt => by cases sourceAt), rfl,
        fun _ => rfl, ?_⟩
      intro captured origin captures
      cases holds
      cases captures
      exact polling.made_of_head split
        (.button _ sample _ sampleAt since made (Binding.get?_port_of_ofSample? made))
  | paired source axisX axisY axisAt different =>
      refine ⟨polling.advance split .free (fun mark sourceAt => by cases sourceAt), rfl,
        fun _ => rfl, ?_⟩
      intro captured origin captures
      obtain ⟨first, firstSample, sourceAt, portAt, firstAt, axisXAt, firstSince⟩ := holds.of_half
      cases captures
      have samePort : first.port = port := Fin.ext portAt.symm
      have order : first.index < (headMark accepted port rest).index := by
        have first_lt := polling.source_lt first sourceAt
        rwa [samePort, taken_head split, ← headMark_index split] at first_lt
      subst sourceAt
      apply polling.made_of_head split
      refine .stick first _ firstSample sample axisX axisY _ samePort order firstAt sampleAt
        firstSince axisXAt axisAt different ?_
      rw [samePort]
      exact Binding.entries_ofStick port axisX axisY

theorem drain {queue : List Sample}
    (polling : Polling accepted begun used (adapter.setQueue port queue) tracer) :
    Upheld accepted begun used
      (adapter.setQueue port (tracer.drain port (accepted port).length queue).rest)
      tracer.poller.kind (tracer.drain port (accepted port).length queue).tracer
      (tracer.drain port (accepted port).length queue).made := by
  induction queue generalizing tracer with
  | nil => exact .of_none polling
  | cons sample rest ih =>
      have upheld := polling.take (tracer.offered (headMark accepted port rest) sample)
      cases made : (tracer.offer (headMark accepted port rest) sample).2 with
      | none =>
          rw [Tracer.drain_cons_of_none made, ← upheld.sameKind]
          exact ih upheld.polling
      | some origin =>
          rw [made] at upheld
          rw [Tracer.drain_cons_of_some made]
          exact upheld

theorem drainPorts (polling : Polling accepted begun used adapter tracer) (ports : List Port) :
    Upheld accepted begun used
      (tracer.drainPorts (fun port => (accepted port).length) adapter ports).rest
      tracer.poller.kind
      (tracer.drainPorts (fun port => (accepted port).length) adapter ports).tracer
      (tracer.drainPorts (fun port => (accepted port).length) adapter ports).made := by
  induction ports generalizing tracer adapter with
  | nil => exact .of_none polling
  | cons port ports ih =>
      rw [← adapter.setQueue_queue port] at polling
      have upheld := polling.drain
      cases made : (tracer.drain port (accepted port).length (adapter.queue port)).made with
      | none =>
          rw [Tracer.drainPorts_cons_of_none made, ← upheld.sameKind]
          exact ih upheld.polling
      | some origin =>
          rw [made] at upheld
          rw [Tracer.drainPorts_cons_of_some made]
          exact upheld

/-- A whole poll keeps the invariant; a binding that it makes is genuine and new. -/
theorem next (polling : Polling accepted begun used adapter tracer) :
    Upheld accepted begun used (tracer.next (fun port => (accepted port).length) adapter).rest
      tracer.poller.kind (tracer.next (fun port => (accepted port).length) adapter).tracer
      (tracer.next (fun port => (accepted port).length) adapter).made :=
  polling.drainPorts Port.all

end Polling

end PadCapture.Provenance
