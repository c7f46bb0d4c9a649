import PadCapture.Proofs.Device.Replay

/-!
# Captured states and the devices made of them

An axis is captured from fifty-one steps of deflection on.  That is more than the fixed
threshold asks of the device, but less than the stored one does: a device that applies
its stored threshold stays silent under the very state it was captured from, as long as
this state moves its axis by fewer than sixty-five steps.
-/

namespace PadCapture

namespace Binding

variable {port : Port} {shown : PortState} {binding : Params}

/-- A captured binding is a button or the last far axis of the state. -/
inductive Captured (port : Port) (shown : PortState) : Params → Prop where
  | button (button : Buttons) (first : shown.buttons.first? = some button) :
      Captured port shown (ofButton port button)
  | axis (axis : Axis) (noButton : shown.buttons.first? = none) (last : shown.IsLastFar axis) :
      Captured port shown (ofAxis port axis (shown.axis axis))

theorem captured_of_ofState? (made : ofState? port shown = some binding) :
    Captured port shown binding := by
  cases first : shown.buttons.first? with
  | some button =>
      rw [ofState?_of_first? port first] at made
      cases made
      exact .button button first
  | none =>
      rw [ofState?_of_first?_none port first] at made
      obtain ⟨axis, moved, rfl⟩ := Option.map_eq_some_iff.mp made
      exact .axis axis first (Sample.isLastFar_of_movedAxis? shown moved)

theorem Captured.parse_written (captured : Captured port shown binding) :
    Params.parse binding.text = .ok binding := by
  cases captured with
  | button button => exact Params.parse_text_of_entries (entries_ofButton port button)
  | axis axis => exact Params.parse_text_of_entries (entries_ofAxis port axis _)

end Binding

namespace PortState

/-- The state shows a known button, or its last far axis is so far from the centre that
half of the whole deflection is exceeded. -/
def IsStrong (shown : PortState) : Prop :=
  shown.buttons.known.mask ≠ 0 ∨
    ∃ axis, shown.IsLastFar axis ∧ 65 ≤ centreDistance (shown.axis axis)

end PortState

namespace ButtonDevice

variable {port : Port} {shown : PortState} {binding : Params} {axis : Axis} {later : Adapter}

/-- The device of a far axis is pressed by the far axis itself, from the mode's own
distance on. -/
theorem status_of_far_axis_iff (mode : ThresholdMode) (far : shown.IsFar axis)
    (held : later.state port = shown) :
    (ofBinding mode (Binding.ofAxis port axis (shown.axis axis))).value.status later = true ↔
      mode = .fixed ∨ 65 ≤ centreDistance (shown.axis axis) := by
  have distance : 50 < centreDistance (shown.axis axis) := far
  have exactly := centreDistance_eq (shown.axis axis)
  unfold centreOffset at exactly
  rcases Nat.lt_or_ge 128 (shown.axis axis).toNat with high | low
  · rw [status_of_high_axis mode port high, held]
    cases mode <;> simp [ThresholdMode.leastHigh] <;> omega
  · rw [status_of_low_axis mode port (by omega), held]
    cases mode <;> simp [ThresholdMode.greatestLow] <;> omega

/-- A captured state presses its own device with the fixed threshold always, with the
stored one just when it is strong. -/
theorem status_of_captured_iff (mode : ThresholdMode)
    (captured : Binding.Captured port shown binding) (held : later.state port = shown) :
    (ofBinding mode binding).value.status later = true ↔ mode = .fixed ∨ shown.IsStrong := by
  cases captured with
  | button button first =>
      have known : shown.buttons.known.mask ≠ 0 := by
        intro unknown
        rw [(Buttons.first?_eq_none_iff _).mpr unknown] at first
        cases first
      have pressed : shown.buttons.contains button = true := List.find?_some first
      rw [status_of_button mode port (Buttons.mem_priority_of_first? first), held]
      exact iff_of_true pressed (.inr (.inl known))
  | axis axis noButton last =>
      have unknown : shown.buttons.known.mask = 0 := (Buttons.first?_eq_none_iff _).mp noButton
      have strong : shown.IsStrong ↔ 65 ≤ centreDistance (shown.axis axis) := by
        constructor
        · rintro (known | ⟨other, otherLast, distance⟩)
          · exact absurd unknown known
          · rwa [last.unique otherLast] at distance
        · exact fun distance => .inr ⟨axis, last, distance⟩
      rw [strong]
      exact status_of_far_axis_iff mode last.far held

end ButtonDevice

/-- What a button session that has just begun captures of the next state is written, read
back and made into a device which this very state presses just when the threshold is the
fixed one or the state is strong. -/
theorem captured_state_triggers_iff (mode : ThresholdMode) (phase : Session.Phase)
    (adapter : Adapter) (port : Port) (shown : PortState) (binding : Params)
    (captured : ((Session.start (.inPhase phase .button) adapter).value.1.next
      ((Session.start (.inPhase phase .button) adapter).value.2.update port.val
        shown).value).value.2.1 = some binding) :
    ∃ stored, Params.parse binding.text = .ok stored ∧
      ∀ later : Adapter, later.state port = shown →
        ((ButtonDevice.ofBinding mode stored).value.status later = true ↔
          mode = .fixed ∨ shown.IsStrong) := by
  rw [Session.binding_next_of_update] at captured
  have made := Binding.captured_of_ofState? captured
  exact ⟨binding, made.parse_written, fun later held =>
    ButtonDevice.status_of_captured_iff mode made held⟩

/-- A stick at 193 is captured as a button and presses the device that applies the stored
threshold. -/
theorem captured_state_triggers_at_193 :
    ∃ stored, Params.parse (Binding.ofAxis 0 .stickX 193).text = .ok stored ∧
      ∀ later : Adapter, later.state 0 = PortState.idle.setAxis .stickX 193 →
        ((ButtonDevice.ofBinding .stored stored).value.status later = true ↔
          ThresholdMode.stored = .fixed ∨ (PortState.idle.setAxis .stickX 193).IsStrong) := by
  apply captured_state_triggers_iff .stored .idle Adapter.initial 0
  rw [Session.binding_next_of_update]
  decide +kernel

theorem not_isStrong_at_180 : ¬ (PortState.idle.setAxis .stickX 180).IsStrong := by
  rintro (known | ⟨axis, -, distance⟩)
  · exact known (by decide)
  · revert distance
    cases axis <;> decide

/-- A weak state is captured like any other, but the device made of it, with the stored
threshold, is not pressed while the port still shows this state. -/
theorem captured_silent_of_weak (phase : Session.Phase) (adapter : Adapter) {port : Port}
    {shown : PortState} {binding : Params} (made : Binding.ofState? port shown = some binding)
    (weak : ¬ shown.IsStrong) :
    ∃ captured stored,
      ((Session.start (.inPhase phase .button) adapter).value.1.next
        ((Session.start (.inPhase phase .button) adapter).value.2.update port.val
          shown).value).value.2.1 = some captured ∧
      Params.parse captured.text = .ok stored ∧
      (ButtonDevice.ofBinding .stored stored).value.status
        ((Session.start (.inPhase phase .button) adapter).value.2.update port.val
          shown).value = false := by
  have written := Binding.captured_of_ofState? made
  refine ⟨binding, binding, ?_, written.parse_written, ?_⟩
  · rw [Session.binding_next_of_update, made]
  · have held :=
      Adapter.state_update_self (Session.start (.inPhase phase .button) adapter).value.2 port shown
    rw [← Bool.not_eq_true, ButtonDevice.status_of_captured_iff .stored written held]
    rintro (fixed | strong)
    · cases fixed
    · exact weak strong

/-- A stick at 180 is captured as a button, but does not press the device that applies the
stored threshold of its own binding. -/
theorem captured_stick_silent_at_180 :
    ∃ captured stored,
      ((Session.start (.inPhase .idle .button) Adapter.initial).value.1.next
        ((Session.start (.inPhase .idle .button) Adapter.initial).value.2.update (0 : Port).val
          (PortState.idle.setAxis .stickX 180)).value).value.2.1 = some captured ∧
      Params.parse captured.text = .ok stored ∧
      (ButtonDevice.ofBinding .stored stored).value.status
        ((Session.start (.inPhase .idle .button) Adapter.initial).value.2.update (0 : Port).val
          (PortState.idle.setAxis .stickX 180)).value = false := by
  have made : Binding.ofState? 0 (PortState.idle.setAxis .stickX 180) =
      some (Binding.ofAxis 0 .stickX 180) := by
    rw [Binding.ofState?_of_first?_none 0 (by decide)]
    decide +kernel
  exact captured_silent_of_weak .idle Adapter.initial made not_isStrong_at_180

end PadCapture
