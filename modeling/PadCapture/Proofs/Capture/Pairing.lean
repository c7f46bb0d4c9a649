import PadCapture.Proofs.Capture.Drain
import PadCapture.Proofs.Capture.Entries
import PadCapture.Proofs.Pad.Deflection

/-!
# Pairing two axes into a stick

An analog poll looks at moved samples only.  With a half binding it takes samples
until a different axis has moved on the same port; without one it first finds the
lowest port with a moved sample.  The main statement says for every poller and all
queues which binding there is, what the poller remembers and which samples are
left.
-/

namespace PadCapture

namespace Sample

/-- The sample reports an axis that is at least thirteen steps away from its
centre. -/
def Moved (sample : Sample) : Prop :=
  sample.axis.isSome ∧ 13 ≤ centreDistance sample.value

/-- The sample is moved on another axis than the given one. -/
def Partners (axis : Axis) (sample : Sample) : Prop :=
  sample.Moved ∧ sample.axis ≠ some axis

instance decidableMoved (sample : Sample) : Decidable sample.Moved :=
  inferInstanceAs (Decidable (_ ∧ _))

instance decidablePartners (axis : Axis) (sample : Sample) : Decidable (sample.Partners axis) :=
  inferInstanceAs (Decidable (_ ∧ _))

end Sample

namespace Poller

variable {port : Port} {sample : Sample} {axis : Axis} {half : HalfBinding}

/-- The idle filter drops exactly the deflections of fewer than thirteen steps. -/
theorem isIdle_iff (sample : Sample) : isIdle sample = true ↔ centreDistance sample.value < 13 := by
  have deflection := Floating.value?_abs (value?_normalizedAxis sample.value)
  have magnitude : |(centreOffset sample.value : Rat) / 128| =
      (((centreOffset sample.value).natAbs : Int) : Rat) / 128 := by
    rw [abs_div, Int.natCast_natAbs, Int.cast_abs]
    norm_num
  rw [isIdle, idleDeflection, Sample.normalized,
    Floating.less_iff_of_value? deflection value?_tenth, magnitude, steps_lt_tenth_iff,
    centreDistance_eq]
  omega

theorem passes_of_not_moved (held : Option HalfBinding) (unmoved : ¬ sample.Moved) :
    (analog held).Passes port sample := by
  unfold Passes
  cases axisAt : sample.axis with
  | none => simp [offer, axisAt]
  | some axis =>
      have idle : isIdle sample = true := by
        rw [isIdle_iff]
        simp only [Sample.Moved, axisAt, Option.isSome_some, true_and] at unmoved
        omega
      simp [offer, axisAt, idle]

/-- A moved sample is offered to the half binding. -/
theorem offer_of_moved (held : Option HalfBinding) (moved : sample.Moved)
    (axisAt : sample.axis = some axis) :
    (analog held).offer port sample = pair held port axis := by
  have lively : isIdle sample = false := by
    have distance := moved.2
    rw [← Bool.not_eq_true, isIdle_iff]
    omega
  simp [offer, axisAt, lively]

theorem offer_of_moved_value (moved : sample.Moved) (axisAt : sample.axis = some axis) :
    ((analog none).offer port sample).value = (analog (some ⟨axis, port.val⟩), none) := by
  rw [offer_of_moved none moved axisAt]
  rfl

theorem offer_of_partners (samePort : half.port = port.val) (partners : sample.Partners half.axis)
    (axisAt : sample.axis = some axis) :
    ((analog (some half)).offer port sample).value =
      (analog none, some (Binding.ofStick port half.axis axis)) := by
  have different : half.axis ≠ axis := by
    intro same
    exact partners.2 (same ▸ axisAt)
  rw [offer_of_moved _ partners.1 axisAt]
  simp [pair, samePort, different]

/-- Samples of other ports and moved samples of the held axis are refused, idle ones
are ignored. -/
theorem passes_of_not_partners (unfit : half.port = port.val → ¬ sample.Partners half.axis) :
    (analog (some half)).Passes port sample := by
  by_cases moved : sample.Moved
  · obtain ⟨axis, axisAt⟩ := Option.isSome_iff_exists.mp moved.1
    unfold Passes
    rw [offer_of_moved _ moved axisAt]
    have refused : ¬ (half.port = port.val ∧ half.axis ≠ axis) := by
      rintro ⟨samePort, different⟩
      apply unfit samePort
      refine ⟨moved, ?_⟩
      rw [axisAt]
      intro same
      exact different (Option.some.inj same).symm
    simp only [pair]
    split
    · rename_i accepted
      simp only [Bool.and_eq_true, decide_eq_true_eq, bne_iff_ne] at accepted
      exact (refused accepted).elim
    · rfl
  · exact passes_of_not_moved _ moved

/-- What a poll with a half binding comes to: the first partner on its port completes
the binding, and without one everything is used up in vain. -/
inductive Paired (half : HalfBinding) (adapter : Adapter) : Outcome Adapter → Prop where
  | complete (port : Port) (skipped rest : List Sample) (last : Sample) (axis : Axis)
      (binding : Params) (samePort : half.port = port.val)
      (queue : adapter.queue port = skipped ++ last :: rest)
      (first : ∀ sample ∈ skipped, ¬ sample.Partners half.axis)
      (partners : last.Partners half.axis) (axisAt : last.axis = some axis)
      (entries : binding.entries =
        [("axis_x", Numeral.natText half.axis.index), ("axis_y", Numeral.natText axis.index),
          ("engine", "gcpad"), ("port", Numeral.natText port)]) :
      Paired half adapter ⟨.analog none, some binding,
        adapter.withQueues fun other =>
          if other < port then [] else if other = port then rest else adapter.queue other⟩
  | waiting
      (alone : ∀ port : Port, half.port = port.val →
        ∀ sample ∈ adapter.queue port, ¬ sample.Partners half.axis) :
      Paired half adapter ⟨.analog (some half), none, adapter.emptied⟩

/-- What a poll comes to for every state of an analog poller. -/
inductive Polled (adapter : Adapter) : Option HalfBinding → Outcome Adapter → Prop where
  | held (half : HalfBinding) (outcome : Outcome Adapter) (paired : Paired half adapter outcome) :
      Polled adapter (some half) outcome
  | found (port : Port) (skipped rest : List Sample) (first : Sample) (axis : Axis)
      (outcome : Outcome Adapter)
      (lowest : ∀ lower < port, ∀ sample ∈ adapter.queue lower, ¬ sample.Moved)
      (queue : adapter.queue port = skipped ++ first :: rest)
      (idle : ∀ sample ∈ skipped, ¬ sample.Moved)
      (moved : first.Moved) (axisAt : first.axis = some axis)
      (paired : Paired ⟨axis, port.val⟩ (adapter.setQueue port rest) outcome) :
      Polled adapter none outcome
  | idle (still : ∀ port, ∀ sample ∈ adapter.queue port, ¬ sample.Moved) :
      Polled adapter none ⟨.analog none, none, adapter.emptied⟩

/-- The relation for a half binding determines the poll. -/
theorem next_of_paired {adapter : Adapter} {outcome : Outcome Adapter}
    (paired : Paired half adapter outcome) :
    ((analog (some half)).next adapter).value = outcome := by
  cases paired with
  | complete port skipped rest last axis binding samePort queue first partners axisAt entries =>
      have passes : ∀ sample ∈ skipped, (analog (some half)).Passes port sample :=
        fun sample member => passes_of_not_partners fun _ => first sample member
      have drained : ((analog (some half)).drain port (adapter.queue port)).value =
          ⟨analog none, some (Binding.ofStick port half.axis axis), rest⟩ := by
        rw [queue, drain_append_of_passes _ _ passes]
        exact drain_cons_of_some _ _ (offer_of_partners samePort partners axisAt) rest
      have foreign : ∀ lower < port, ∀ sample ∈ adapter.queue lower,
          (analog (some half)).Passes lower sample := by
        intro lower below sample _
        apply passes_of_not_partners
        intro sameLower
        exact absurd (Fin.ext (sameLower.symm.trans samePort)) (ne_of_lt below)
      have sameBinding : binding = Binding.ofStick port half.axis axis := by
        apply Params.eq_of_entries_eq
        rw [entries, Binding.entries_ofStick]
      rw [next_of_complete foreign drained, sameBinding]
  | waiting alone =>
      exact next_of_passes _ _ fun port sample member =>
        passes_of_not_partners fun samePort => alone port samePort sample member

theorem exists_paired (half : HalfBinding) (adapter : Adapter) :
    ∃ outcome, Paired half adapter outcome := by
  by_cases reachable : ∃ port : Port, half.port = port.val ∧
      ∃ sample ∈ adapter.queue port, sample.Partners half.axis
  · obtain ⟨port, samePort, present⟩ := reachable
    obtain ⟨skipped, last, rest, queue, first, partners⟩ := exists_first present
    obtain ⟨axis, axisAt⟩ := Option.isSome_iff_exists.mp partners.1.1
    exact ⟨_, .complete port skipped rest last axis (Binding.ofStick port half.axis axis)
      samePort queue first partners axisAt (Binding.entries_ofStick port half.axis axis)⟩
  · refine ⟨_, .waiting ?_⟩
    intro port samePort sample member partners
    exact reachable ⟨port, samePort, sample, member, partners⟩

/-- A poll that holds nothing takes the first moved sample of the lowest port and goes
on as if it had held that axis all along. -/
theorem next_of_first_moved {adapter : Adapter} {skipped rest : List Sample}
    (lowest : ∀ lower < port, ∀ sample ∈ adapter.queue lower, ¬ sample.Moved)
    (queue : adapter.queue port = skipped ++ sample :: rest)
    (idle : ∀ other ∈ skipped, ¬ other.Moved) (moved : sample.Moved)
    (axisAt : sample.axis = some axis) :
    ((analog none).next adapter).value =
      ((analog (some ⟨axis, port.val⟩)).next (adapter.setQueue port rest)).value := by
  obtain ⟨below, above, split, mem_below⟩ := Port.all_split port
  have notBelow : port ∉ below :=
    fun member => Nat.lt_irrefl port.val ((mem_below port).mp member)
  have taken : ((analog none).drain port (adapter.queue port)).value =
      ((analog (some ⟨axis, port.val⟩)).drain port rest).value := by
    rw [queue, drain_append_of_passes _ _ fun other member =>
      passes_of_not_moved none (idle other member)]
    exact drain_cons_of_none _ _ (offer_of_moved_value moved axisAt) rest
  have unmoved : ∀ lower ∈ below, ∀ other ∈ adapter.queue lower,
      (analog none).Passes lower other :=
    fun lower member other waiting =>
      passes_of_not_moved none (lowest lower ((mem_below lower).mp member) other waiting)
  have foreign : ∀ lower ∈ below, ∀ other ∈ (adapter.setQueue port rest).queue lower,
      (analog (some ⟨axis, port.val⟩)).Passes lower other := by
    intro lower member other _
    apply passes_of_not_partners
    intro samePort
    exact absurd (Fin.ext samePort.symm) (ne_of_lt ((mem_below lower).mp member))
  rw [next, next, split, drainPorts_append_of_passes _ _ below unmoved,
    drainPorts_append_of_passes _ _ below foreign]
  simp only [drainPorts, Logged.value_bind]
  rw [Adapter.queue_emptiedAt_of_notMem _ _ notBelow,
    Adapter.queue_emptiedAt_of_notMem _ _ notBelow, Adapter.queue_setQueue_self, taken,
    Adapter.setQueue_emptiedAt_setQueue]

theorem next_of_polled {adapter : Adapter} {held : Option HalfBinding}
    {outcome : Outcome Adapter} (polled : Polled adapter held outcome) :
    ((analog held).next adapter).value = outcome := by
  cases polled with
  | held half outcome paired => exact next_of_paired paired
  | found port skipped rest first axis outcome lowest queue idle moved axisAt paired =>
      rw [next_of_first_moved lowest queue idle moved axisAt]
      exact next_of_paired paired
  | idle still =>
      exact next_of_passes _ _ fun port sample member =>
        passes_of_not_moved none (still port sample member)

theorem exists_polled (adapter : Adapter) (held : Option HalfBinding) :
    ∃ outcome, Polled adapter held outcome := by
  cases held with
  | some half =>
      obtain ⟨outcome, paired⟩ := exists_paired half adapter
      exact ⟨outcome, .held half outcome paired⟩
  | none =>
      by_cases somewhere : ∃ port : Port, ∃ sample ∈ adapter.queue port, sample.Moved
      · obtain ⟨port, lowest, skipped, first, rest, queue, idle, moved⟩ :=
          exists_first_at_lowest somewhere
        obtain ⟨axis, axisAt⟩ := Option.isSome_iff_exists.mp moved.1
        obtain ⟨outcome, paired⟩ :=
          exists_paired ⟨axis, port.val⟩ (adapter.setQueue port rest)
        exact ⟨outcome, .found port skipped rest first axis outcome lowest queue idle moved axisAt
          paired⟩
      · refine ⟨_, .idle ?_⟩
        intro port sample member moved
        exact somewhere ⟨port, sample, member, moved⟩

/-- An analog poll does exactly what the relation says, for every state of the poller
and every content of the queues; and a sample counts as moved when it has an axis that
the idle filter lets through. -/
theorem analog_next_iff_polled :
    (∀ sample : Sample,
      sample.Moved ↔ sample.axis.isSome ∧ sample.normalized.abs.less idleDeflection = false) ∧
    ∀ (held : Option HalfBinding) (adapter : Adapter) (outcome : Outcome Adapter),
      ((analog held).next adapter).value = outcome ↔ Polled adapter held outcome := by
  constructor
  · intro sample
    have idle := isIdle_iff sample
    rw [isIdle] at idle
    rw [← Bool.not_eq_true, idle, Sample.Moved, Nat.not_lt]
  · intro held adapter outcome
    constructor
    · intro polls
      obtain ⟨polled, relates⟩ := exists_polled adapter held
      rw [← polls, next_of_polled relates]
      exact relates
    · exact next_of_polled

end Poller

end PadCapture
