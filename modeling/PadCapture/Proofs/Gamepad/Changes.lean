import PadCapture.Gamepad.Source
import PadCapture.Proofs.Gamepad.Deflections
import PadCapture.Proofs.Pad.Buttons
import PadCapture.Proofs.Pad.Reports
import Mathlib.Data.List.DropRight

/-!
# Changes of one gamepad

The changes that one gamepad reports make up a state of a port.  In this state a button is
pressed if it was pressed last, an axis shows its last value, and nothing is left of what
came before the gamepad was disconnected.  What the buttons and axes of a gamepad stand for
is written out in three lists.
-/

namespace PadCapture

namespace Gamepad

namespace HostButton

/-- The buttons of a gamepad and the buttons of the pad that they press. -/
def padButtons : List (HostButton × Buttons) :=
  [(.south, .a), (.west, .b), (.east, .x), (.north, .y), (.start, .start), (.rightTrigger, .z),
    (.leftTrigger2, .l), (.rightTrigger2, .r), (.dPadUp, .up), (.dPadDown, .down),
    (.dPadLeft, .left), (.dPadRight, .right)]

/-- The buttons of a gamepad that move a trigger of the pad. -/
def triggers : List (HostButton × Axis) :=
  [(.leftTrigger2, .triggerLeft), (.rightTrigger2, .triggerRight)]

variable (host : HostButton)

theorem mem_padButtons_iff (button : Buttons) :
    (host, button) ∈ padButtons ↔ host.padButton? = some button := by
  cases host <;> simp [padButtons, padButton?, eq_comm]

theorem mem_triggers_iff (axis : Axis) :
    (host, axis) ∈ triggers ↔ host.triggerAxis? = some axis := by
  cases host <;> simp [triggers, triggerAxis?, eq_comm]

theorem isSome_padButton? :
    host.padButton?.isSome = decide (host ∈ padButtons.map Prod.fst) := by
  cases host <;> rfl

theorem isSome_triggerAxis? :
    host.triggerAxis?.isSome = decide (host ∈ triggers.map Prod.fst) := by
  cases host <;> rfl

theorem mem_priority_of_padButton? {host : HostButton} {button : Buttons}
    (stands : host.padButton? = some button) : button ∈ Buttons.priority := by
  revert stands
  cases host <;> rintro ⟨⟩ <;> decide

end HostButton

namespace HostAxis

/-- The axes of a gamepad and the axes of the pad that they move. -/
def padAxes : List (HostAxis × Axis) :=
  [(.leftStickX, .stickX), (.leftStickY, .stickY), (.rightStickX, .substickX),
    (.rightStickY, .substickY), (.leftZ, .triggerLeft), (.rightZ, .triggerRight)]

variable (host : HostAxis)

theorem mem_padAxes_iff (axis : Axis) : (host, axis) ∈ padAxes ↔ host.padAxis? = some axis := by
  cases host <;> simp [padAxes, padAxis?, eq_comm]

theorem isSome_padAxis? : host.padAxis?.isSome = decide (host ∈ padAxes.map Prod.fst) := by
  cases host <;> rfl

end HostAxis

namespace Change

/-- Whether the change presses or releases a button of the pad, if it does either. -/
def pressOf? (button : Buttons) : Change → Option Bool
  | .buttonPressed host => if (host, button) ∈ HostButton.padButtons then some true else none
  | .buttonReleased host => if (host, button) ∈ HostButton.padButtons then some false else none
  | _ => none

/-- The deflection that the change gives an axis of the pad, if it gives one. -/
def valueOf? (axis : Axis) : Change → Option Single
  | .axisChanged host value => if (host, axis) ∈ HostAxis.padAxes then some value else none
  | .buttonChanged host value => if (host, axis) ∈ HostButton.triggers then some value else none
  | _ => none

/-- The change has a meaning for the pad. -/
def isHandled : Change → Bool
  | .buttonPressed host | .buttonReleased host => host ∈ HostButton.padButtons.map Prod.fst
  | .buttonChanged host _ => host ∈ HostButton.triggers.map Prod.fst
  | .axisChanged host _ => host ∈ HostAxis.padAxes.map Prod.fst
  | .disconnected => true
  | .buttonRepeated _ | .connected | .dropped => false

/-- What a change makes of a state if it has a meaning for the pad. -/
def after? (state : PortState) (change : Change) : Option PortState :=
  let applied := change.apply? state
  applied.value

def next (state : PortState) (change : Change) : PortState := (change.after? state).getD state

theorem isSome_after? (state : PortState) (change : Change) :
    (change.after? state).isSome = change.isHandled := by
  cases change with
  | axisChanged host value =>
      rw [after?, Change.apply?, isHandled, ← host.isSome_padAxis?]
      cases host.padAxis? <;> rfl
  | buttonPressed host | buttonReleased host =>
      simp only [after?, Change.apply?, isHandled, ← host.isSome_padButton?, Logged.value_pure,
        Option.isSome_map]
  | buttonChanged host value =>
      simp only [after?, Change.apply?, isHandled, ← host.isSome_triggerAxis?, Logged.value_pure,
        Option.isSome_map]
  | buttonRepeated | connected | disconnected | dropped => rfl

end Change

/-- The state that some changes make of an idle port. -/
def stateAfter (changes : List Change) : PortState := changes.foldl Change.next .idle

/-- The changes after the gamepad was disconnected last. -/
def sinceDisconnected (changes : List Change) : List Change :=
  changes.rtakeWhile fun change => change ≠ .disconnected

section Latest

variable {α : Type} (read : Change → Option α)

/-- What the last change says that says anything. -/
def latest? (changes : List Change) : Option α := (changes.filterMap read).getLast?

theorem latest?_concat (changes : List Change) (change : Change) :
    latest? read (changes ++ [change]) = (read change).or (latest? read changes) := by
  rw [latest?, latest?, List.filterMap_append, List.getLast?_append]
  cases said : read change <;> simp [said]

end Latest

/-- The state shows what the latest changes say, of those after the last disconnection. -/
structure ShowsLatest (changes : List Change) (state : PortState) : Prop where
  buttons : ∀ button ∈ Buttons.priority, state.buttons.contains button = true ↔
    latest? (Change.pressOf? button) (sinceDisconnected changes) = some true
  axes : ∀ axis, state.axis axis =
    ((latest? (Change.valueOf? axis) (sinceDisconnected changes)).map axisByte).getD axisCentre
  known : state.buttons.known = state.buttons

namespace Change

variable (state : PortState) (change : Change)

/-- A change presses or releases the buttons that it speaks of and no other one. -/
theorem contains_next (stays : change ≠ .disconnected) {button : Buttons}
    (member : button ∈ Buttons.priority) :
    (change.next state).buttons.contains button =
      (change.pressOf? button).getD (state.buttons.contains button) := by
  rw [Bool.eq_iff_iff]
  cases change with
  | disconnected => exact absurd rfl stays
  | buttonPressed host =>
      cases stands : host.padButton? with
      | none => simp [next, after?, Change.apply?, pressOf?, HostButton.mem_padButtons_iff, stands]
      | some pressed =>
          have united := Buttons.contains_union state.buttons member
            (HostButton.mem_priority_of_padButton? stands)
          simp only [next, after?, Change.apply?, pressOf?, HostButton.mem_padButtons_iff, stands,
            Logged.value_pure, Option.map_some, Option.getD_some, Option.some.injEq, united]
          by_cases same : button = pressed
          · simp [same]
          · simp [same, Ne.symm same]
  | buttonReleased host =>
      cases stands : host.padButton? with
      | none => simp [next, after?, Change.apply?, pressOf?, HostButton.mem_padButtons_iff, stands]
      | some released =>
          have remaining := Buttons.contains_without state.buttons member
            (HostButton.mem_priority_of_padButton? stands)
          simp only [next, after?, Change.apply?, pressOf?, HostButton.mem_padButtons_iff, stands,
            Logged.value_pure, Option.map_some, Option.getD_some, Option.some.injEq, remaining]
          by_cases same : button = released
          · simp [same]
          · simp [same, Ne.symm same]
  | buttonChanged host value =>
      cases stands : host.triggerAxis? <;>
        simp [next, after?, Change.apply?, pressOf?, stands, PortState.setAxis]
  | axisChanged host value =>
      cases stands : host.padAxis? <;>
        simp [next, after?, Change.apply?, pressOf?, stands, PortState.setAxis]
  | buttonRepeated | connected | dropped => rfl

/-- A change moves the axes that it speaks of and no other one. -/
theorem axis_next (stays : change ≠ .disconnected) (axis : Axis) :
    (change.next state).axis axis =
      ((change.valueOf? axis).map axisByte).getD (state.axis axis) := by
  cases change with
  | disconnected => exact absurd rfl stays
  | buttonPressed host | buttonReleased host =>
      cases stands : host.padButton? <;>
        simp [next, after?, Change.apply?, valueOf?, stands, PortState.axis]
  | buttonChanged host value =>
      cases stands : host.triggerAxis? with
      | none => simp [next, after?, Change.apply?, valueOf?, HostButton.mem_triggers_iff, stands]
      | some moved =>
          by_cases same : axis = moved <;>
            simp [next, after?, Change.apply?, valueOf?, HostButton.mem_triggers_iff, stands,
              PortState.axis_setAxis, same, eq_comm]
  | axisChanged host value =>
      cases stands : host.padAxis? with
      | none => simp [next, after?, Change.apply?, valueOf?, HostAxis.mem_padAxes_iff, stands]
      | some moved =>
          by_cases same : axis = moved <;>
            simp [next, after?, Change.apply?, valueOf?, HostAxis.mem_padAxes_iff, stands,
              PortState.axis_setAxis, same, eq_comm]
  | buttonRepeated | connected | dropped => rfl

theorem known_next (known : state.buttons.known = state.buttons) :
    (change.next state).buttons.known = (change.next state).buttons := by
  cases change with
  | buttonPressed host =>
      cases stands : host.padButton? with
      | none => simpa [next, after?, Change.apply?, stands] using known
      | some pressed =>
          simpa [next, after?, Change.apply?, stands] using
            Buttons.known_union _ known (HostButton.mem_priority_of_padButton? stands)
  | buttonReleased host =>
      cases stands : host.padButton? with
      | none => simpa [next, after?, Change.apply?, stands] using known
      | some released =>
          simpa [next, after?, Change.apply?, stands] using Buttons.known_without _ known
  | buttonChanged host value =>
      cases stands : host.triggerAxis? <;>
        simpa [next, after?, Change.apply?, stands, PortState.setAxis] using known
  | axisChanged host value =>
      cases stands : host.padAxis? <;>
        simpa [next, after?, Change.apply?, stands, PortState.setAxis] using known
  | buttonRepeated | connected | dropped => exact known
  | disconnected =>
      change PortState.idle.buttons.known = PortState.idle.buttons
      decide

end Change

theorem sinceDisconnected_concat_disconnected (changes : List Change) :
    sinceDisconnected (changes ++ [.disconnected]) = [] :=
  List.rtakeWhile_concat_neg _ _ _ (by simp)

theorem sinceDisconnected_concat (changes : List Change) {change : Change}
    (stays : change ≠ .disconnected) :
    sinceDisconnected (changes ++ [change]) = sinceDisconnected changes ++ [change] :=
  List.rtakeWhile_concat_pos _ _ _ (decide_eq_true stays)

namespace ShowsLatest

variable {changes : List Change} {state : PortState}

theorem idle (noneLeft : sinceDisconnected changes = []) : ShowsLatest changes .idle where
  buttons := by
    intro button member
    rw [noneLeft]
    revert button member
    decide
  axes := by
    intro axis
    rw [noneLeft]
    cases axis <;> rfl
  known := by decide

/-- After one more change the state shows the latest changes again. -/
theorem next (latest : ShowsLatest changes state) (change : Change) :
    ShowsLatest (changes ++ [change]) (change.next state) := by
  by_cases leaves : change = .disconnected
  · subst leaves
    exact idle (sinceDisconnected_concat_disconnected changes)
  · constructor
    case buttons =>
      intro button member
      rw [sinceDisconnected_concat changes leaves, latest?_concat,
        change.contains_next state leaves member]
      cases said : change.pressOf? button with
      | none => exact latest.buttons button member
      | some pressed => simp
    case axes =>
      intro axis
      rw [sinceDisconnected_concat changes leaves, latest?_concat,
        change.axis_next state leaves, latest.axes axis]
      cases change.valueOf? axis <;> rfl
    case known => exact change.known_next state latest.known

/-- An axis shows the last deflection that was given. -/
theorem isShownAs (latest : ShowsLatest changes state) {axis : Axis} {value : Single}
    (given : latest? (Change.valueOf? axis) (sinceDisconnected changes) = some value) :
    IsShownAs value (state.axis axis) := by
  rw [latest.axes, given]
  exact isShownAs_axisByte value

end ShowsLatest

/-- The state that changes make of an idle port shows the latest of them. -/
theorem showsLatest_stateAfter (changes : List Change) :
    ShowsLatest changes (stateAfter changes) := by
  induction changes using List.reverseRecOn with
  | nil => exact ShowsLatest.idle rfl
  | append_singleton changes change latest =>
      rw [stateAfter, List.foldl_concat]
      exact latest.next change

end Gamepad

end PadCapture
