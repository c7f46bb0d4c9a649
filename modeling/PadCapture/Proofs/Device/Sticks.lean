import PadCapture.Device.Stick
import PadCapture.Proofs.Capture.Readings
import PadCapture.Proofs.Device.Buttons
import PadCapture.Proofs.Params.RoundTrip

/-!
# Replaying captured sticks

A captured stick binding stores a port and two axes but no deadzone.  Written and read back
it therefore makes the stick of these axes with the default deadzone, and all that this
stick shows later comes from the two bytes of its axes.
-/

namespace PadCapture

namespace Stick

variable (port : Port) (axisX axisY : Axis) (deadzone : Single)

/-- The binding of a stick is read as its two axes with the default deadzone. -/
theorem value_ofBinding_ofStick :
    (ofBinding deadzone (Binding.ofStick port axisX axisY)).value =
      (create port.val axisX axisY deadzone).value := by
  have portAt : (Binding.ofStick port axisX axisY).get? "port" =
      some (Numeral.natText port) := by
    simp +decide [Params.get?, Binding.entries_ofStick, List.lookup_cons]
  have axisXAt : (Binding.ofStick port axisX axisY).get? "axis_x" =
      some (Numeral.natText axisX.index) := by
    simp +decide [Params.get?, Binding.entries_ofStick]
  have axisYAt : (Binding.ofStick port axisX axisY).get? "axis_y" =
      some (Numeral.natText axisY.index) := by
    simp +decide [Params.get?, Binding.entries_ofStick, List.lookup_cons]
  have noDeadzone : (Binding.ofStick port axisX axisY).get? "deadzone" = none := by
    simp +decide [Params.get?, Binding.entries_ofStick, List.lookup_cons]
  have stored : ((Binding.ofStick port axisX axisY).single "deadzone" deadzone).value = deadzone :=
    Params.value_lookup_of_missing noDeadzone deadzone
  simp only [ofBinding, Logged.value_bind, Device.value_portOf portAt,
    Device.value_axisOf axisXAt, Device.value_axisOf axisYAt, stored, ite_self]

/-- A new stick reads two bytes of its port. -/
theorem status_create_congr {first second : Adapter}
    (sameX : (first.state port).axis axisX = (second.state port).axis axisX)
    (sameY : (first.state port).axis axisY = (second.state port).axis axisY) :
    (create port.val axisX axisY deadzone).value.status first =
      (create port.val axisX axisY deadzone).value.status second := by
  have created : ∃ kept, (create port.val axisX axisY deadzone).value =
      ⟨port.val, axisX, axisY, kept⟩ := by
    unfold create
    split <;> exact ⟨_, rfl⟩
  obtain ⟨kept, created⟩ := created
  simp [created, status, vectorOf, Adapter.state?, sameX, sameY]

end Stick

open Readings in
/-- A stick session that has just begun, and polls after each reading at one port, returns
its first binding after the first reading that reports another axis than the first one that
reports any; and it returns none without such a reading.  The written binding is read back
as the stick of these two axes, whatever the default deadzone is. -/
theorem captured_stick_replays (phase : Session.Phase) (half : Option HalfBinding)
    (adapter : Adapter) (port : Port) (readings : List PortState) :
    let begun := (Session.start (.inPhase phase (.analog half)) adapter).value
    let polls := pollEach begun.1 begun.2 port readings
    (∀ closing binding, IsFirstBinding polls closing binding →
      ∃ opening axisX axisY, FirstPair readings opening closing axisX axisY) ∧
    ∀ opening closing axisX axisY, FirstPair readings opening closing axisX axisY →
      ∃ binding, IsFirstBinding polls closing binding ∧
        binding.entries =
          [("axis_x", Numeral.natText axisX.index), ("axis_y", Numeral.natText axisY.index),
            ("engine", "gcpad"), ("port", Numeral.natText port)] ∧
        ∃ stored, Params.parse binding.text = .ok stored ∧
          ∀ (defaultDeadzone : Single) (later : Adapter),
            let stick := (Stick.ofBinding defaultDeadzone stored).value
            let direct := (Stick.create port.val axisX axisY defaultDeadzone).value
            (stick.status later = direct.status later ∧
              ∀ direction, stick.directionStatus later direction =
                direct.directionStatus later direction) ∧
            ∀ other : Adapter,
              (other.state port).axis axisX = (later.state port).axis axisX →
              (other.state port).axis axisY = (later.state port).axis axisY →
              stick.status other = stick.status later ∧
                ∀ direction, stick.directionStatus other direction =
                  stick.directionStatus later direction := by
  intro begun polls
  have first := (awaits_start phase half adapter port).isFirstBinding_iff_firstPair readings
  refine ⟨?_, ?_⟩
  · intro closing binding returned
    obtain ⟨axisX, axisY, ⟨opening, pair⟩, _⟩ := (first closing binding).mp returned
    exact ⟨opening, axisX, axisY, pair⟩
  · intro opening closing axisX axisY pair
    have entries := Binding.entries_ofStick port axisX axisY
    refine ⟨Binding.ofStick port axisX axisY,
      (first closing _).mpr ⟨axisX, axisY, ⟨opening, pair⟩, rfl⟩, entries,
      _, Params.parse_text_of_entries entries, ?_⟩
    intro defaultDeadzone later stick direct
    have same : stick = direct := Stick.value_ofBinding_ofStick port axisX axisY defaultDeadzone
    rw [same]
    refine ⟨⟨rfl, fun direction => rfl⟩, ?_⟩
    intro other sameX sameY
    have status : direct.status other = direct.status later :=
      Stick.status_create_congr port axisX axisY defaultDeadzone sameX sameY
    exact ⟨status, fun direction => congrArg (Stick.points · direction) status⟩

/-- Of three axes in turn the second closes the stick, and the third opens another one. -/
example :
    let readings := [PortState.idle, PortState.idle.setAxis .stickX 200,
      PortState.idle.setAxis .stickX 20, PortState.idle.setAxis .stickY 20,
      PortState.idle.setAxis .substickX 200]
    Readings.pollEach (.inPhase .capturing (.analog none)) Adapter.initial.beginCapture.value 2
        readings =
      [none, none, none, some (Binding.ofStick 2 .stickX .stickY), none] := by
  decide +kernel

end PadCapture
