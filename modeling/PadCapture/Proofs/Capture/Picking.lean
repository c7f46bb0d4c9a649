import PadCapture.Proofs.Capture.Bindings

/-!
# Picking a button

A button poll stops at the first sample that can be bound, counted by ports and at each port
from the oldest sample on.  The main statement says for all queues which sample this is, what
its binding holds, entry by entry, and which samples are left.
-/

namespace PadCapture

namespace Sample

/-- The sample shows a known button or reports an axis. -/
def Bindable (sample : Sample) : Prop :=
  sample.buttons.known.mask ≠ 0 ∨ sample.axis.isSome

instance decidableBindable (sample : Sample) : Decidable sample.Bindable :=
  inferInstanceAs (Decidable (_ ∨ _))

end Sample

namespace Binding

variable {port : Port} {sample : Sample} {binding : Params}

/-- What the binding of a sample holds.  The port is the one whose queue held the sample. -/
inductive Binds (port : Port) (sample : Sample) (binding : Params) : Prop where
  | button (button : Buttons) (first : sample.buttons.IsFirst button)
      (entries : binding.entries =
        [("button", Numeral.natText button.mask.toNat), ("engine", "gcpad"),
          ("port", Numeral.natText port)])
  | axis (axis : Axis) (unknown : sample.buttons.known.mask = 0)
      (axisAt : sample.axis = some axis)
      (entries : binding.entries =
        [("axis", Numeral.natText axis.index), ("button", "8192"),
          ("direction", if 128 < sample.value.toNat then "+" else "-"), ("engine", "gcpad"),
          ("port", Numeral.natText port), ("threshold", "0.5")])

theorem ofSample?_eq_some_iff :
    ofSample? port sample = some binding ↔ Binds port sample binding := by
  constructor
  · intro made
    unfold ofSample? at made
    cases first : sample.buttons.first? with
    | some button =>
        rw [first] at made
        cases made
        exact .button button (Buttons.first?_eq_some_iff.mp first) (entries_ofButton port button)
    | none =>
        rw [first] at made
        obtain ⟨axis, axisAt, rfl⟩ := Option.map_eq_some_iff.mp made
        exact .axis axis ((Buttons.first?_eq_none_iff _).mp first) axisAt
          (entries_ofAxis port axis sample.value)
  · intro binds
    cases binds with
    | button button first entries =>
        have same : binding = ofButton port button :=
          Params.eq_of_entries_eq (entries.trans (entries_ofButton port button).symm)
        rw [ofSample?, Buttons.first?_eq_some_iff.mpr first, same]
    | axis axis unknown axisAt entries =>
        have same : binding = ofAxis port axis sample.value :=
          Params.eq_of_entries_eq (entries.trans (entries_ofAxis port axis sample.value).symm)
        rw [ofSample?, (Buttons.first?_eq_none_iff _).mpr unknown, axisAt, same]
        rfl

theorem ofSample?_eq_none_iff : ofSample? port sample = none ↔ ¬ sample.Bindable := by
  rw [Sample.Bindable, ← isSome_ofSample?_iff port, Bool.not_eq_true, Option.isSome_eq_false_iff,
    Option.isNone_iff_eq_none]

theorem exists_binds (port : Port) (bindable : sample.Bindable) :
    ∃ binding, Binds port sample binding := by
  obtain ⟨binding, made⟩ :=
    Option.isSome_iff_exists.mp ((isSome_ofSample?_iff port sample).mpr bindable)
  exact ⟨binding, ofSample?_eq_some_iff.mp made⟩

/-- The bindings of some samples are those of the bindable ones among them, in order. -/
theorem forall₂_binds (port : Port) (samples : List Sample) :
    List.Forall₂ (Binds port) (samples.filter (·.Bindable))
      (samples.filterMap (ofSample? port)) := by
  induction samples with
  | nil => exact .nil
  | cons sample rest ih =>
      cases made : ofSample? port sample with
      | none =>
          have unfit : ¬ sample.Bindable := ofSample?_eq_none_iff.mp made
          rw [List.filter_cons_of_neg (by simpa using unfit), List.filterMap_cons_none made]
          exact ih
      | some binding =>
          have bindable : sample.Bindable :=
            (isSome_ofSample?_iff port sample).mp (by rw [made]; rfl)
          rw [List.filter_cons_of_pos (by simpa using bindable), List.filterMap_cons_some made]
          exact .cons (ofSample?_eq_some_iff.mp made) ih

end Binding

namespace Poller

variable {port : Port} {sample : Sample} {adapter : Adapter} {outcome : Outcome Adapter}

theorem passes_of_not_bindable (unfit : ¬ sample.Bindable) : button.Passes port sample := by
  rw [Passes, offer_of_button port rfl, Binding.ofSample?_eq_none_iff.mpr unfit]

/-- What a button poll comes to: it takes everything up to the first sample that can be bound,
and everything there is if there is no such sample. -/
inductive Picked (adapter : Adapter) : Outcome Adapter → Prop where
  | bound (port : Port) (skipped rest : List Sample) (first : Sample) (binding : Params)
      (lowest : ∀ lower < port, ∀ sample ∈ adapter.queue lower, ¬ sample.Bindable)
      (queue : adapter.queue port = skipped ++ first :: rest)
      (unfit : ∀ sample ∈ skipped, ¬ sample.Bindable)
      (bindable : first.Bindable) (binds : Binding.Binds port first binding) :
      Picked adapter ⟨.button, some binding,
        adapter.withQueues fun other =>
          if other < port then [] else if other = port then rest else adapter.queue other⟩
  | nothing (unfit : ∀ port, ∀ sample ∈ adapter.queue port, ¬ sample.Bindable) :
      Picked adapter ⟨.button, none, adapter.emptied⟩

theorem next_of_picked (picked : Picked adapter outcome) :
    (button.next adapter).value = outcome := by
  cases picked with
  | bound port skipped rest first binding lowest queue unfit bindable binds =>
      have offered : (button.offer port first).value = (button, some binding) := by
        rw [offer_of_button port rfl, Binding.ofSample?_eq_some_iff.mpr binds]
      have drained : (button.drain port (adapter.queue port)).value =
          ⟨button, some binding, rest⟩ := by
        rw [queue, drain_append_of_passes _ _ fun sample member =>
          passes_of_not_bindable (unfit sample member)]
        exact drain_cons_of_some _ _ offered rest
      exact next_of_complete
        (fun lower below sample member => passes_of_not_bindable (lowest lower below sample member))
        drained
  | nothing unfit =>
      exact next_of_passes _ _ fun port sample member =>
        passes_of_not_bindable (unfit port sample member)

theorem exists_picked (adapter : Adapter) : ∃ outcome, Picked adapter outcome := by
  by_cases somewhere : ∃ port : Port, ∃ sample ∈ adapter.queue port, sample.Bindable
  · obtain ⟨port, lowest, skipped, first, rest, queue, unfit, bindable⟩ :=
      exists_first_at_lowest somewhere
    obtain ⟨binding, binds⟩ := Binding.exists_binds port bindable
    exact ⟨_, .bound port skipped rest first binding lowest queue unfit bindable binds⟩
  · refine ⟨_, .nothing ?_⟩
    intro port sample member bindable
    exact somewhere ⟨port, sample, member, bindable⟩

/-- For all queues a button poll does exactly what the relation says: it binds the first
sample that can be bound, for the port of its queue, and takes nothing behind it. -/
theorem button_next_iff_picked (adapter : Adapter) (outcome : Outcome Adapter) :
    (button.next adapter).value = outcome ↔ Picked adapter outcome := by
  constructor
  · intro polls
    obtain ⟨picked, relates⟩ := exists_picked adapter
    rw [← polls, next_of_picked relates]
    exact relates
  · exact next_of_picked

/-- A sample without a known button or an axis is passed over, a button goes before an axis, and
the binding is for the port of the queue. -/
example :
    let idle : Sample := ⟨2, ⟨0xe080⟩, none, 128⟩
    let pressed : Sample := ⟨7, ⟨0x9001⟩, some .stickY, 20⟩
    let moved : Sample := ⟨2, .empty, some .stickX, 255⟩
    (button.next (Adapter.initial.setQueue 2 [idle, pressed, moved])).value =
      ⟨button, some (Binding.ofButton 2 .left), Adapter.initial.setQueue 2 [moved]⟩ := by
  rfl

end Poller

end PadCapture
