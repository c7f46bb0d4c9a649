import PadCapture.Proofs.Capture.Bindings
import PadCapture.Proofs.Capture.Pairing
import PadCapture.Proofs.Pad.Reports

/-!
# Reports and filters

A state reports an axis from fifty-one steps on only, and each kind of poller has a test of its
own on the byte: an analog poll ignores fewer than thirteen steps, and a button poll writes the
half that the byte is in.  What a poll ignores is too close to the centre to be in a report with
an axis, and the byte of such a report is in one of the halves, never between them.
-/

namespace PadCapture

/-- If the event is about an ignored sample, this sample is near its centre. -/
def Event.IgnoresOnlyIdle : Event → Prop
  | idleSampleIgnored sample => centreDistance sample.value < 13
  | _ => True

namespace PortState

variable {state : PortState} {axis : Axis}

theorem not_isFar_iff : ¬ state.IsFar axis ↔ centreDistance (state.axis axis) ≤ 50 := Nat.not_lt

theorem IsFar.not_idle (far : state.IsFar axis) : 13 ≤ centreDistance (state.axis axis) := by
  have distance : 50 < centreDistance (state.axis axis) := far
  omega

/-- A far axis is in one of the halves. -/
theorem IsFar.lower_iff (far : state.IsFar axis) :
    state.axis axis < axisCentre ↔ ¬ axisCentre < state.axis axis := by
  have distance : 50 < centreDistance (state.axis axis) := far
  rw [centreDistance_eq, centreOffset] at distance
  rw [UInt8.lt_iff_toNat_lt, UInt8.lt_iff_toNat_lt]
  change _ < 128 ↔ ¬ 128 < _
  omega

end PortState

namespace Poller

section Events

variable {allowed : Event → Prop} (pops : ∀ sample, allowed (.samplePopped sample))
  (offers : ∀ (poller : Poller) (port : Port) (sample : Sample),
    ∀ event ∈ (poller.offer port sample).events, allowed event)

include pops offers

/-- What every pop and every offer may note is all that draining a queue notes. -/
theorem events_drain_allowed (poller : Poller) (port : Port) (queue : List Sample) :
    ∀ event ∈ (poller.drain port queue).events, allowed event := by
  induction queue generalizing poller with
  | nil => simp [drain]
  | cons sample rest ih =>
      intro event noted
      simp only [drain, Logged.events_bind, List.mem_append] at noted
      rcases noted with popped | offered | later
      · rw [List.mem_singleton.mp popped]
        exact pops sample
      · exact offers poller port sample event offered
      · split at later
        · cases later
        · exact ih _ event later

theorem events_drainPorts_allowed (poller : Poller) (adapter : Adapter) (ports : List Port) :
    ∀ event ∈ (poller.drainPorts adapter ports).events, allowed event := by
  induction ports generalizing poller adapter with
  | nil => simp [drainPorts]
  | cons port ports ih =>
      intro event noted
      simp only [drainPorts, Logged.events_bind, List.mem_append] at noted
      rcases noted with drained | later
      · exact events_drain_allowed pops offers poller port _ event drained
      · split at later
        · cases later
        · exact ih _ _ event later

theorem events_next_allowed (poller : Poller) (adapter : Adapter) :
    ∀ event ∈ (poller.next adapter).events, allowed event :=
  events_drainPorts_allowed pops offers poller adapter Port.all

end Events

theorem ignoresOnlyIdle_of_mem_pair (held : Option HalfBinding) (port : Port) (axis : Axis) :
    ∀ event ∈ (pair held port axis).events, event.IgnoresOnlyIdle := by
  cases held with
  | none => simp [pair, Logged.note, Event.IgnoresOnlyIdle]
  | some half =>
      rw [pair]
      split <;> simp [Logged.note, Event.IgnoresOnlyIdle]

theorem ignoresOnlyIdle_of_mem_offer (poller : Poller) (port : Port) (sample : Sample) :
    ∀ event ∈ (poller.offer port sample).events, event.IgnoresOnlyIdle := by
  cases poller with
  | button =>
      rw [offer]
      split <;> simp [Logged.note, Event.IgnoresOnlyIdle]
  | analog held =>
      rw [offer]
      split
      · simp
      · rename_i axis _
        by_cases idle : isIdle sample = true
        · simpa [idle, Logged.note, Event.IgnoresOnlyIdle] using (isIdle_iff sample).mp idle
        · rw [if_neg idle]
          exact ignoresOnlyIdle_of_mem_pair held port axis

/-- No poll ignores a sample that is thirteen steps away from the centre. -/
theorem not_ignored_of_distance {sample : Sample} (distance : 13 ≤ centreDistance sample.value)
    (poller : Poller) (adapter : Adapter) :
    Event.idleSampleIgnored sample ∉ (poller.next adapter).events := by
  intro noted
  have idle : centreDistance sample.value < 13 :=
    events_next_allowed (fun _ => trivial) ignoresOnlyIdle_of_mem_offer poller adapter _ noted
  omega

end Poller

/-- A sample with an axis is bound, with the half that the byte is in unless a button is bound. -/
theorem Binding.exists_direction (port : Port) (sample : Sample) {axis : Axis}
    (axisAt : sample.axis = some axis) :
    ∃ binding, ofSample? port sample = some binding ∧ binding.get? "direction" =
      if sample.buttons.known.mask = 0 then some (if axisCentre < sample.value then "+" else "-")
      else none := by
  cases first : sample.buttons.first? with
  | some button =>
      have known : sample.buttons.known.mask ≠ 0 := by
        rw [ne_eq, ← Buttons.first?_eq_none_iff, first]
        exact Option.some_ne_none button
      refine ⟨ofButton port button, by rw [ofSample?, first], ?_⟩
      rw [get?_direction_ofButton, if_neg known]
  | none =>
      have unknown := (Buttons.first?_eq_none_iff _).mp first
      refine ⟨ofAxis port axis sample.value, by rw [ofSample?, first, axisAt]; rfl, ?_⟩
      rw [get?_direction_ofAxis, if_pos unknown]

namespace Poller

/-- The sample is queued when the state is published, and both kinds of poller take its axis for a
moved one.  An analog poll that comes to it holds, pairs or refuses the axis.  A button poll binds
it, and unless a known button goes first it writes the half that the axis is in. -/
structure Heeds (port : Port) (state : PortState) (axis : Axis) (sample : Sample) : Prop where
  queued : ∀ adapter : Adapter, adapter.isConfiguring = true →
    (adapter.update port.val state).value.queue port = adapter.queue port ++ [sample]
  paired : ∀ held, (analog held).offer port sample = pair held port axis
  never_ignored : ∀ (poller : Poller) (later : Adapter),
    Event.idleSampleIgnored sample ∉ (poller.next later).events
  bound : ∃ binding, (button.offer port sample).value = (button, some binding) ∧
    (binding.get? "direction" = some "+" ↔
      state.buttons.known.mask = 0 ∧ axisCentre < state.axis axis) ∧
    (binding.get? "direction" = some "-" ↔
      state.buttons.known.mask = 0 ∧ state.axis axis < axisCentre)

theorem heeds_of_isLastFar {state : PortState} {axis : Axis} (port : Port)
    (last : state.IsLastFar axis) :
    Heeds port state axis ⟨port.val, state.buttons, some axis, state.axis axis⟩ := by
  have far := last.far
  constructor
  case queued =>
    intro adapter isConfiguring
    rw [Adapter.queue_update, Adapter.acceptedState?, if_pos ⟨isConfiguring, rfl⟩,
      Sample.ofState?_eq_some_iff.mpr (.moved axis last)]
    rfl
  case paired => exact fun held => offer_of_moved held ⟨rfl, far.not_idle⟩ rfl
  case never_ignored => exact not_ignored_of_distance far.not_idle
  case bound =>
    obtain ⟨binding, made, direction⟩ := Binding.exists_direction port
      ⟨port.val, state.buttons, some axis, state.axis axis⟩ rfl
    refine ⟨binding, by rw [offer_of_button port rfl, made], ?_⟩
    rw [direction, far.lower_iff]
    by_cases unknown : state.buttons.known.mask = 0 <;>
      by_cases upper : axisCentre < state.axis axis <;> simp [unknown, upper]

/-- For every port and every state, a report has the whole mask and the last far axis with its
byte, there is none when the mask is zero and no axis is far, and the pollers heed every report
of an axis. -/
theorem reports_agree_with_filters (number : Nat) (state : PortState) :
    (Sample.ofState? number state = none ↔
      state.buttons.mask = 0 ∧ ∀ axis, centreDistance (state.axis axis) ≤ 50) ∧
    ∀ sample, Sample.ofState? number state = some sample →
      sample.port = number ∧ sample.buttons = state.buttons ∧
      ((∃ axis, state.IsLastFar axis ∧ sample.axis = some axis ∧
          sample.value = state.axis axis) ∨
        ((∀ axis, centreDistance (state.axis axis) ≤ 50) ∧ sample.axis = none ∧
          sample.value = 128)) ∧
      ∀ axis, sample.axis = some axis → ∀ port : Port, number = port.val →
        Heeds port state axis sample := by
  simp only [← PortState.not_isFar_iff]
  refine ⟨Sample.ofState?_eq_none_iff, ?_⟩
  intro sample reported
  cases Sample.ofState?_eq_some_iff.mp reported with
  | moved axis last =>
      refine ⟨rfl, rfl, .inl ⟨axis, last, rfl, rfl⟩, ?_⟩
      rintro _ ⟨⟩ port rfl
      exact heeds_of_isLastFar port last
  | pressed near nonzero =>
      refine ⟨rfl, rfl, .inr ⟨near, rfl, rfl⟩, ?_⟩
      rintro _ ⟨⟩

/-- Of several far axes the last one is reported, together with bits that name no button. -/
example :
    Sample.ofState? 2 ⟨⟨0xe080⟩, #v[20, 128, 128, 255, 77, 78]⟩ =
      some ⟨2, ⟨0xe080⟩, some .triggerLeft, 77⟩ := by
  decide

end Poller

end PadCapture
