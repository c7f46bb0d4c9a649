import PadCapture.Capture.Session
import PadCapture.Proofs.Bench.Sessions
import PadCapture.Proofs.Capture.Drain
import PadCapture.Proofs.Device.Buttons
import PadCapture.Proofs.Pad.Reports
import PadCapture.Proofs.Params.RoundTrip

/-!
# Replaying captured buttons

A button session that has just begun finds exactly one sample when one state is
published.  What it captures is written, read back and made into a device that follows
the captured button, or the captured direction of the captured axis, at its own port.
-/

namespace PadCapture

namespace Binding

variable (port : Port) {shown : PortState}

/-- The binding that a button capture makes of a published state. -/
def ofState? (port : Port) (shown : PortState) : Option Params :=
  (Sample.ofState? port.val shown).bind (ofSample? port)

theorem ofSample?_of_first? {sample : Sample} {button : Buttons}
    (first : sample.buttons.first? = some button) :
    ofSample? port sample = some (ofButton port button) := by
  simp [ofSample?, first]

theorem ofSample?_of_axis {sample : Sample} (noButton : sample.buttons.first? = none) :
    ofSample? port sample = sample.axis.map fun axis => ofAxis port axis sample.value := by
  simp [ofSample?, noButton]

/-- A known button is bound, whatever the axes show. -/
theorem ofState?_of_first? {button : Buttons} (first : shown.buttons.first? = some button) :
    ofState? port shown = some (ofButton port button) := by
  unfold ofState? Sample.ofState?
  cases Sample.movedAxis? shown with
  | some axis => exact ofSample?_of_first? port first
  | none =>
      have pressed : shown.buttons.isEmpty = false := by
        cases blank : shown.buttons.isEmpty with
        | false => rfl
        | true =>
            have noBits : shown.buttons = .empty := by
              rw [Buttons.isEmpty, beq_iff_eq] at blank
              exact congrArg Buttons.mk blank
            rw [noBits] at first
            cases first
      rw [pressed]
      exact ofSample?_of_first? port first

/-- Without a known button the last far axis is bound, if there is one. -/
theorem ofState?_of_first?_none (noButton : shown.buttons.first? = none) :
    ofState? port shown =
      (Sample.movedAxis? shown).map fun axis => ofAxis port axis (shown.axis axis) := by
  unfold ofState? Sample.ofState?
  cases Sample.movedAxis? shown with
  | some axis => exact ofSample?_of_axis port noButton
  | none =>
      cases shown.buttons.isEmpty with
      | true => rfl
      | false => exact ofSample?_of_axis port noButton

end Binding

namespace Poller

/-- A button poll of a single waiting sample makes its binding. -/
theorem binding_next_of_single {adapter : Adapter} {port : Port} {sample? : Option Sample}
    (own : adapter.queue port = sample?.toList)
    (others : ∀ other, other ≠ port → adapter.queue other = []) :
    (Poller.button.next adapter).value.binding = sample?.bind (Binding.ofSample? port) := by
  obtain ⟨rest, polled, _⟩ := Poller.button.next_of_single own others
  rw [polled]
  cases sample? with
  | none => rfl
  | some sample =>
      change (Poller.button.offer port sample).value.2 = Binding.ofSample? port sample
      rw [offer]
      cases Binding.ofSample? port sample <;> rfl

end Poller

namespace Session

/-- A button session that has just begun captures the binding of the next state. -/
theorem binding_next_of_update (phase : Phase) (adapter : Adapter) (port : Port)
    (shown : PortState) :
    ((start (.inPhase phase .button) adapter).value.1.next
        ((start (.inPhase phase .button) adapter).value.2.update port.val shown).value).value.2.1 =
      Binding.ofState? port shown := by
  have configuring : adapter.beginCapture.value.isConfiguring = true := by
    simp [Adapter.beginCapture, Adapter.isConfiguring]
  obtain ⟨own, others⟩ := Adapter.queue_update_of_empty adapter.beginCapture.value configuring
    (fun other => adapter.queue_beginCapture other) port shown
  rw [value_start, value_next]
  exact Poller.binding_next_of_single own others

end Session

/-- The least byte that presses the upper half of a captured axis. -/
def ThresholdMode.leastHigh : ThresholdMode → Nat
  | .fixed => 141
  | .stored => 193

/-- The greatest byte that presses the lower half of a captured axis. -/
def ThresholdMode.greatestLow : ThresholdMode → Nat
  | .fixed => 115
  | .stored => 63

namespace ButtonDevice

variable (mode : ThresholdMode) (port : Port)

theorem status_mask {button : Buttons} (pressable : button.isEmpty = false) (later : Adapter) :
    (mask port button).status later = (later.state port).buttons.contains button := by
  simp [status, Adapter.state?, PortState.isPressed, pressable]

/-- The device of a captured button follows that button. -/
theorem status_of_button {button : Buttons} (member : button ∈ Buttons.priority)
    (later : Adapter) :
    (ofBinding mode (Binding.ofButton port button)).value.status later =
      (later.state port).buttons.contains button := by
  rw [value_ofBinding_ofButton mode port (Buttons.known_of_mem_priority member)]
  exact status_mask port (Buttons.isEmpty_of_mem_priority member) later

theorem status_axis_iff (axis : Axis) (positive : Bool) (later : Adapter) :
    (ButtonDevice.axis ⟨port, axis, Binding.defaultThreshold, positive, mode⟩).status later = true ↔
      if positive then mode.leastHigh ≤ ((later.state port).axis axis).toNat
      else ((later.state port).axis axis).toNat ≤ mode.greatestLow := by
  have pressed := AxisButton.isDeflected_captured_iff port axis positive mode
    ((later.state port).axis axis)
  simp only [status, AxisButton.status, Adapter.state?, Port.ofNat?_val, Option.map_some]
  rw [pressed]
  cases positive <;> cases mode <;>
    simp [AxisButton.pressSteps, ThresholdMode.leastHigh, ThresholdMode.greatestLow,
      centreOffset] <;> omega

/-- The device of an axis captured in the upper half is pressed in the upper half. -/
theorem status_of_high_axis {axis : Axis} {value : UInt8} (high : 128 < value.toNat)
    (later : Adapter) :
    (ofBinding mode (Binding.ofAxis port axis value)).value.status later = true ↔
      mode.leastHigh ≤ ((later.state port).axis axis).toNat := by
  have positive : decide (axisCentre < value) = true := decide_eq_true high
  rw [value_ofBinding_ofAxis, positive]
  exact status_axis_iff mode port axis true later

/-- The device of an axis captured in the lower half is pressed in the lower half. -/
theorem status_of_low_axis {axis : Axis} {value : UInt8} (low : value.toNat < 128)
    (later : Adapter) :
    (ofBinding mode (Binding.ofAxis port axis value)).value.status later = true ↔
      ((later.state port).axis axis).toNat ≤ mode.greatestLow := by
  have negative : decide (axisCentre < value) = false :=
    decide_eq_false (Nat.lt_asymm low)
  rw [value_ofBinding_ofAxis, negative]
  exact status_axis_iff mode port axis false later

end ButtonDevice

namespace Binding

theorem isSome_ofState?_iff (port : Port) (shown : PortState) :
    (ofState? port shown).isSome ↔ shown.buttons.known.mask ≠ 0 ∨ ∃ axis, shown.IsFar axis := by
  cases first : shown.buttons.first? with
  | some button =>
      have known : shown.buttons.known.mask ≠ 0 := by
        intro none_known
        rw [(Buttons.first?_eq_none_iff _).mpr none_known] at first
        cases first
      simp [ofState?_of_first? port first, known]
  | none =>
      have unknown := (Buttons.first?_eq_none_iff _).mp first
      rw [ofState?_of_first?_none port first]
      cases moved : Sample.movedAxis? shown with
      | none => simp [unknown, (Sample.movedAxis?_eq_none_iff shown).mp moved]
      | some axis =>
          have far := (Sample.isLastFar_of_movedAxis? shown moved).far
          simp only [Option.map_some, Option.isSome_some, true_iff]
          exact .inr ⟨axis, far⟩

end Binding

/-- A button session that has just begun captures something exactly when the next state
shows a known button or a far axis.  The written binding is read back as a device that
follows the first button in order of priority or, without a known button, the half of
the last far axis that the state showed. -/
theorem captured_button_replays (mode : ThresholdMode) (phase : Session.Phase)
    (adapter : Adapter) (port : Port) (shown : PortState) :
    let begun := (Session.start (.inPhase phase .button) adapter).value
    let published := (begun.2.update port.val shown).value
    let captured := (begun.1.next published).value.2.1
    (captured.isSome ↔ shown.buttons.known.mask ≠ 0 ∨ ∃ axis, shown.IsFar axis) ∧
      ∀ binding, captured = some binding →
        ∃ stored, Params.parse binding.text = .ok stored ∧ ∀ later : Adapter,
          let status := (ButtonDevice.ofBinding mode stored).value.status later
          let held := later.state port
          (shown.buttons.known.mask ≠ 0 →
            ∃ button, shown.buttons.IsFirst button ∧
              status = held.buttons.contains button) ∧
          (shown.buttons.known.mask = 0 →
            ∃ axis, shown.IsLastFar axis ∧
              (128 < (shown.axis axis).toNat →
                (status = true ↔ mode.leastHigh ≤ (held.axis axis).toNat)) ∧
              ((shown.axis axis).toNat < 128 →
                (status = true ↔ (held.axis axis).toNat ≤ mode.greatestLow))) := by
  intro begun published captured
  have captured_eq : captured = Binding.ofState? port shown :=
    Session.binding_next_of_update phase adapter port shown
  rw [captured_eq]
  refine ⟨Binding.isSome_ofState?_iff port shown, ?_⟩
  intro binding made
  cases first : shown.buttons.first? with
  | some button =>
      rw [Binding.ofState?_of_first? port first] at made
      cases made
      refine ⟨_, Params.parse_text_of_entries (Binding.entries_ofButton port button), ?_⟩
      intro later
      have follows := ButtonDevice.status_of_button mode port
        (Buttons.mem_priority_of_first? first) later
      refine ⟨fun _ => ⟨button, Buttons.first?_eq_some_iff.mp first, follows⟩, ?_⟩
      intro unknown
      rw [(Buttons.first?_eq_none_iff _).mpr unknown] at first
      cases first
  | none =>
      rw [Binding.ofState?_of_first?_none port first] at made
      obtain ⟨axis, moved, rfl⟩ := Option.map_eq_some_iff.mp made
      refine ⟨_, Params.parse_text_of_entries (Binding.entries_ofAxis port axis _), ?_⟩
      intro later
      refine ⟨fun known => absurd ((Buttons.first?_eq_none_iff _).mp first) known, ?_⟩
      intro unknown
      exact ⟨axis, Sample.isLastFar_of_movedAxis? shown moved,
        fun high => ButtonDevice.status_of_high_axis mode port high later,
        fun low => ButtonDevice.status_of_low_axis mode port low later⟩

end PadCapture
