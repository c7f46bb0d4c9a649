import PadCapture.Pad.Sample
import PadCapture.Proofs.Pad.Axes

/-!
# Reported axes

A port state reports the last axis in order that is far from its centre, and some axis
is reported just when some axis is far.  Together with the mask this is the whole report.
-/

namespace PadCapture

namespace PortState

/-- The axis is clearly away from its centre. -/
def IsFar (state : PortState) (axis : Axis) : Prop :=
  captureDistance < centreDistance (state.axis axis)

instance (state : PortState) (axis : Axis) : Decidable (state.IsFar axis) :=
  inferInstanceAs (Decidable (_ < _))

/-- The last axis in order that is far from its centre. -/
structure IsLastFar (state : PortState) (axis : Axis) : Prop where
  far : state.IsFar axis
  last : ∀ later, axis.index < later.index → ¬ state.IsFar later

theorem IsLastFar.unique {state : PortState} {axis other : Axis} (last : state.IsLastFar axis)
    (otherLast : state.IsLastFar other) : other = axis := by
  have notBefore : ¬ axis.index < other.index := fun after => last.last other after otherLast.far
  have notAfter : ¬ other.index < axis.index := fun before => otherLast.last axis before last.far
  exact Axis.eq_of_index_eq (by omega)

end PortState

namespace Sample

variable (state : PortState)

theorem movedAxis?_eq_none_iff : movedAxis? state = none ↔ ∀ axis, ¬ state.IsFar axis := by
  rw [movedAxis?, List.getLast?_eq_none_iff, List.filter_eq_nil_iff]
  constructor
  · intro near axis far
    exact near axis axis.mem_all (decide_eq_true far)
  · intro near axis _ far
    exact near axis (of_decide_eq_true far)

theorem isLastFar_of_movedAxis? {axis : Axis} (moved : movedAxis? state = some axis) :
    state.IsLastFar axis := by
  obtain ⟨earlier, split⟩ := List.getLast?_eq_some_iff.mp moved
  have ordered := Axis.all_increases.filter
    fun axis => decide (captureDistance < centreDistance (state.axis axis))
  have mem_iff : ∀ other, other ∈ earlier ++ [axis] ↔ state.IsFar other := by
    intro other
    rw [← split, List.mem_filter]
    exact ⟨fun both => of_decide_eq_true both.2,
      fun far => ⟨other.mem_all, decide_eq_true far⟩⟩
  rw [split] at ordered
  constructor
  case far =>
      rw [← mem_iff]
      simp
  case last =>
      intro later after far
      rcases List.mem_append.mp ((mem_iff later).mpr far) with before | same
      · have below := (List.pairwise_append.mp ordered).2.2 later before axis (by simp)
        omega
      · rw [List.mem_singleton.mp same] at after
        omega

theorem movedAxis?_eq_some_iff (axis : Axis) :
    movedAxis? state = some axis ↔ state.IsLastFar axis := by
  refine ⟨isLastFar_of_movedAxis? state, ?_⟩
  intro last
  cases moved : movedAxis? state with
  | none => exact absurd last.far ((movedAxis?_eq_none_iff state).mp moved axis)
  | some other => rw [last.unique (isLastFar_of_movedAxis? state moved)]

/-- What a state reports: its whole mask and the last far axis with its byte.  Without a far axis
the mask must not be zero, and the byte stands at the centre. -/
inductive Reports (number : Nat) (state : PortState) : Sample → Prop where
  | moved (axis : Axis) (last : state.IsLastFar axis) :
      Reports number state ⟨number, state.buttons, some axis, state.axis axis⟩
  | pressed (near : ∀ axis, ¬ state.IsFar axis) (nonzero : state.buttons.mask ≠ 0) :
      Reports number state ⟨number, state.buttons, none, axisCentre⟩

variable {state} {number : Nat}

theorem ofState?_eq_none_iff :
    ofState? number state = none ↔
      state.buttons.mask = 0 ∧ ∀ axis, ¬ state.IsFar axis := by
  rw [← movedAxis?_eq_none_iff, ofState?]
  cases movedAxis? state with
  | some axis => simp
  | none => simp [Buttons.isEmpty]

theorem ofState?_eq_some_iff {sample : Sample} :
    ofState? number state = some sample ↔ Reports number state sample := by
  constructor
  · intro reported
    unfold ofState? at reported
    cases moved : movedAxis? state with
    | some axis =>
        rw [moved] at reported
        cases reported
        exact .moved axis ((movedAxis?_eq_some_iff state axis).mp moved)
    | none =>
        have near := (movedAxis?_eq_none_iff state).mp moved
        cases blank : state.buttons.isEmpty with
        | true => simp [moved, blank] at reported
        | false =>
            simp only [moved, blank, Bool.false_eq_true, if_false, Option.some.injEq] at reported
            subst reported
            exact .pressed near (by simpa [Buttons.isEmpty] using blank)
  · intro reports
    cases reports with
    | moved axis last => rw [ofState?, (movedAxis?_eq_some_iff state axis).mpr last]
    | pressed near nonzero =>
        have shown : state.buttons.isEmpty = false := by simpa [Buttons.isEmpty] using nonzero
        simp [ofState?, (movedAxis?_eq_none_iff state).mpr near, shown]

theorem port_of_ofState? {sample : Sample} (reported : ofState? number state = some sample) :
    sample.port = number := by
  cases ofState?_eq_some_iff.mp reported <;> rfl

end Sample

end PadCapture
