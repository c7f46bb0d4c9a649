import PadCapture.Pad.State

/-!
# The axes of a state

An axis is known by its place in the order and by the name that scripts use.  A state is made up
of its buttons and the bytes of its axes, and writing one axis leaves the others alone.
-/

namespace PadCapture

namespace Axis

theorem mem_all (axis : Axis) : axis ∈ all := by
  cases axis <;> decide

theorem all_increases : all.Pairwise fun earlier later => earlier.index < later.index := by
  decide

theorem eq_of_index_eq {axis other : Axis} (same : other.index = axis.index) :
    other = axis := by
  revert same
  cases axis <;> cases other <;> decide

theorem exists_index_eq (place : Fin 6) : ∃ axis ∈ all, axis.index = place := by
  revert place
  decide

theorem scriptName_inj {axis other : Axis} : other.scriptName = axis.scriptName ↔ other = axis := by
  cases axis <;> cases other <;> decide

theorem ofScriptName?_eq_some_iff {name : String} {axis : Axis} :
    ofScriptName? name = some axis ↔ axis.scriptName = name := by
  constructor
  · intro known
    unfold ofScriptName? at known
    simpa using List.find?_some known
  · rintro rfl
    cases axis <;> rfl

end Axis

namespace PortState

variable {state other : PortState}

@[simp] theorem axis_idle (axis : Axis) : idle.axis axis = 128 := by
  cases axis <;> rfl

theorem axis_setAxis (state : PortState) (axis other : Axis) (value : UInt8) :
    (state.setAxis axis value).axis other = if other = axis then value else state.axis other := by
  change (state.axes.set axis.index.val value axis.index.isLt)[other.index.val] = _
  by_cases same : other = axis
  · subst same
    rw [Vector.getElem_set_self, if_pos rfl]
  · have apart : axis.index.val ≠ other.index.val :=
      fun equal => same (Axis.eq_of_index_eq (Fin.ext equal.symm))
    rw [Vector.getElem_set_ne _ _ apart, if_neg same]
    rfl

/-- States with the same buttons and the same byte on every axis are equal. -/
theorem eq_iff :
    state = other ↔ state.buttons = other.buttons ∧ ∀ axis, state.axis axis = other.axis axis := by
  constructor
  · rintro rfl
    exact ⟨rfl, fun _ => rfl⟩
  · rintro ⟨sameButtons, sameAxes⟩
    have sameBytes : state.axes = other.axes := by
      apply Vector.ext
      intro place inside
      obtain ⟨axis, -, atPlace⟩ := Axis.exists_index_eq ⟨place, inside⟩
      have byte := sameAxes axis
      unfold PortState.axis at byte
      rw [atPlace] at byte
      exact byte
    cases state
    cases other
    simp_all

end PortState

end PadCapture
