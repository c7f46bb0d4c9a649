import PadCapture.Proofs.Capture.Bindings
import PadCapture.Proofs.Capture.Pairing

/-!
# Analog pollers at a single port

Of the samples of a single port an analog poller remembers only the axis that it holds.
One pass over the axes that move therefore finds all pairs that it binds.
-/

namespace PadCapture

namespace Sample

/-- The axis of a sample that is at least thirteen steps away from its centre. -/
def livelyAxis? (sample : Sample) : Option Axis :=
  if 13 ≤ centreDistance sample.value then sample.axis else none

theorem livelyAxis?_eq_some_iff (sample : Sample) (axis : Axis) :
    sample.livelyAxis? = some axis ↔ sample.Moved ∧ sample.axis = some axis := by
  unfold livelyAxis? Moved
  split <;> cases sample.axis <;> simp [*]

theorem not_moved_of_livelyAxis? {sample : Sample} (none_lively : sample.livelyAxis? = none) :
    ¬ sample.Moved := by
  intro moved
  obtain ⟨axis, axisAt⟩ := Option.isSome_iff_exists.mp moved.1
  rw [(sample.livelyAxis?_eq_some_iff axis).mpr ⟨moved, axisAt⟩] at none_lively
  cases none_lively

end Sample

namespace Binding

/-- What the binding of a stick holds: the axes of the pair in the order in which they moved,
and the port. -/
def Joins (port : Port) (pair : Axis × Axis) (binding : Params) : Prop :=
  binding.entries =
    [("axis_x", Numeral.natText pair.1.index), ("axis_y", Numeral.natText pair.2.index),
      ("engine", "gcpad"), ("port", Numeral.natText port)]

end Binding

namespace Poller

/-- One pass over the axes that move: an axis is held until a different one moves, which
makes a pair, and then the pass starts over. -/
def pairs : Option Axis → List Axis → List (Axis × Axis)
  | _, [] => []
  | none, axis :: rest => pairs (some axis) rest
  | some held, axis :: rest =>
      if axis = held then pairs (some held) rest else (held, axis) :: pairs none rest

/-- An analog poller with the axis of a half binding at the port. -/
def holding (port : Port) (held : Option Axis) : Poller :=
  analog (held.map fun axis => ⟨axis, port.val⟩)

/-- The axis that is held and the pair that is made when an axis moves, if one does. -/
def advance : Option Axis → Option Axis → Option Axis × Option (Axis × Axis)
  | held, none => (held, none)
  | none, some axis => (some axis, none)
  | some first, some axis =>
      if axis = first then (some first, none) else (none, some (first, axis))

section Advance

variable {first : Axis} {axis? : Option Axis}

theorem advance_of_same (same : ∀ axis, axis? = some axis → axis = first) :
    advance (some first) axis? = (some first, none) := by
  cases axis? with
  | none => rfl
  | some axis => exact if_pos (same axis rfl)

theorem advance_of_ne {axis : Axis} (different : axis ≠ first) :
    advance (some first) (some axis) = (none, some (first, axis)) := if_neg different

end Advance

theorem offer_holding (port : Port) (held : Option Axis) (sample : Sample) :
    ((holding port held).offer port sample).value =
      (holding port (advance held sample.livelyAxis?).1,
        (advance held sample.livelyAxis?).2.map fun pair =>
          Binding.ofStick port pair.1 pair.2) := by
  cases lively : sample.livelyAxis? with
  | none => cases held <;> exact passes_of_not_moved _ (Sample.not_moved_of_livelyAxis? lively)
  | some axis =>
      obtain ⟨moved, axisAt⟩ := (sample.livelyAxis?_eq_some_iff axis).mp lively
      cases held with
      | none => exact offer_of_moved_value moved axisAt
      | some first =>
          by_cases same : axis = first
          · have refused : ¬ sample.Partners first := fun partners => partners.2 (same ▸ axisAt)
            rw [advance_of_same fun _ found => (Option.some.inj found).symm.trans same]
            exact passes_of_not_partners fun _ => refused
          · have partners : sample.Partners first := by
              refine ⟨moved, ?_⟩
              rw [axisAt]
              exact fun other => same (Option.some.inj other)
            rw [advance_of_ne same]
            exact @offer_of_partners port sample axis ⟨first, port.val⟩ rfl partners axisAt

/-- Over the samples of its port an analog poller makes one binding for each pair that one
pass over their axes finds. -/
theorem bindings_holding (port : Port) (held : Option Axis) (samples : List Sample) :
    List.Forall₂ (Binding.Joins port) (pairs held (samples.filterMap Sample.livelyAxis?))
      ((holding port held).bindings port samples) := by
  induction samples generalizing held with
  | nil => cases held <;> exact .nil
  | cons sample rest ih =>
      rw [bindings, offer_holding, List.filterMap_cons]
      cases sample.livelyAxis? with
      | none => cases held <;> exact ih _
      | some axis =>
          cases held with
          | none => exact ih (some axis)
          | some first =>
              by_cases same : axis = first
              · rw [advance, pairs, if_pos same, if_pos same]
                exact ih (some first)
              · rw [advance, pairs, if_neg same, if_neg same]
                exact .cons (Binding.entries_ofStick port first axis) (ih none)

end Poller

end PadCapture
