import PadCapture.Proofs.Adapter.Queues
import PadCapture.Proofs.Gamepad.Changes
import PadCapture.Proofs.Gamepad.Ports

/-!
# Gamepads mirrored by the adapter

The source keeps for every port the state that the changes of its owner make of an idle port.
What it publishes is this state, so an adapter that shows the states of the source before a
poll shows them after it.
-/

namespace PadCapture.Gamepad

namespace Source

section Handle

variable (source : Source) (adapter : Adapter) (report : Report)

/-- Handling a report claims the port of its gamepad and publishes the state of this port if
the change has a meaning. -/
theorem value_handle :
    (source.handle adapter report).value =
      let claimed := (source.claimPort report.gamepad).value
      match claimed.1 with
      | none => ⟨claimed.2, adapter, 0⟩
      | some port =>
          match report.change.after? (claimed.2.state port) with
          | none => ⟨claimed.2, adapter, 0⟩
          | some state =>
              ⟨claimed.2.setState port state, (adapter.update port.val state).value, 1⟩ := by
  rw [handle, Logged.value_bind]
  rcases (source.claimPort report.gamepad).value with ⟨_ | port, claimed⟩
  · rfl
  · dsimp only
    rw [Logged.value_bind, ← Change.after?]
    cases report.change.after? (claimed.state port) <;> rfl

theorem state_setState (port other : Port) (state : PortState) :
    (source.setState port state).state other =
      if port = other then state else source.state other := by
  by_cases same : port = other
  · subst same
    simp [setState, Source.state]
  · simp [setState, Source.state, PerPort.get_set_of_ne _ (Ne.symm same), same]

theorem state_claimPort (gamepad : Nat) (port : Port) :
    (source.claimPort gamepad).value.2.state port = source.state port := by
  rw [Source.state, states_claimPort]
  rfl

theorem owners_handle :
    (source.handle adapter report).value.source.owners =
      (source.claimPort report.gamepad).value.2.owners := by
  rw [value_handle]
  dsimp only
  split
  · rfl
  · split <;> rfl

theorem state_handle (port : Port) :
    (source.handle adapter report).value.source.state port =
      if (source.claimPort report.gamepad).value.1 = some port
      then report.change.next (source.state port) else source.state port := by
  rw [value_handle]
  dsimp only
  split
  next unowned => rw [state_claimPort, unowned, if_neg (by simp)]
  next slot owned =>
    rw [owned, state_claimPort]
    by_cases same : slot = port
    · subst same
      rw [if_pos rfl, Change.next]
      cases report.change.after? (source.state slot) with
      | none => exact source.state_claimPort _ slot
      | some state => simp [state_setState]
    · rw [if_neg (by simpa using same)]
      cases report.change.after? (source.state slot) with
      | none => exact source.state_claimPort _ port
      | some state => rw [state_setState, if_neg same, state_claimPort]

theorem mirror_handle (mirrored : ∀ port, adapter.state port = source.state port) (port : Port) :
    (source.handle adapter report).value.adapter.state port =
      (source.handle adapter report).value.source.state port := by
  rw [value_handle]
  dsimp only
  split
  · rw [state_claimPort, mirrored]
  next slot owned =>
    split
    · rw [state_claimPort, mirrored]
    · rw [Adapter.state_update, state_setState, state_claimPort, mirrored]
      simp only [Fin.val_inj]

theorem handled_handle :
    (source.handle adapter report).value.handled =
      if (source.claimPort report.gamepad).value.1.isSome ∧ report.change.isHandled then 1
      else 0 := by
  rw [value_handle]
  dsimp only
  split
  next unowned => simp [unowned]
  next slot owned =>
    rw [owned,
      ← report.change.isSome_after? ((source.claimPort report.gamepad).value.2.state slot)]
    split <;> simp_all

end Handle

end Source

/-- The number of reports of port owners with a meaning for the pad. -/
def countHandled (connected : List Nat) (reports : List Report) : Nat :=
  reports.countP fun report =>
    report.gamepad ∈ owning connected reports ∧ report.change.isHandled = true

theorem countHandled_concat (connected : List Nat) (reports : List Report) (report : Report) :
    countHandled connected (reports ++ [report]) =
      countHandled connected reports +
        if report.gamepad ∈ owning connected (reports ++ [report]) ∧ report.change.isHandled
        then 1 else 0 := by
  rw [countHandled, List.countP_append, List.countP_singleton]
  congr 1
  · apply List.countP_congr
    intro earlier member
    rw [decide_eq_true_iff, decide_eq_true_iff,
      mem_owning_concat report (mem_appearing_of_mem connected reports member)]
  · simp

/-- The count does not depend on how the reports of the gamepads are mixed. -/
theorem countHandled_congr {connected otherConnected : List Nat} {reports others : List Report}
    (sameOrder : appearing otherConnected others = appearing connected reports)
    (sameChanges : ∀ gamepad, changesOf gamepad others = changesOf gamepad reports) :
    countHandled otherConnected others = countHandled connected reports := by
  rw [countHandled, countHandled, owning, owning, sameOrder]
  exact (perm_of_changesOf_eq sameChanges).countP_eq _

/-- The source knows the owners and the states of the ports after some reports. -/
structure Source.Follows (connected : List Nat) (reports : List Report) (source : Source) :
    Prop where
  owners : source.owners = owning connected reports
  state : ∀ port, source.state port = stateAfter (ownChanges connected reports port)

namespace Source.Follows

variable {connected : List Nat} {reports : List Report} {source : Source}
variable (follows : source.Follows connected reports) (adapter : Adapter) (report : Report)

include follows

/-- The gamepad of the next report claims the port that it owns after this report. -/
theorem claimPort :
    (source.claimPort report.gamepad).value.2.owners = owning connected (reports ++ [report]) ∧
      ∀ port, (source.claimPort report.gamepad).value.1 = some port ↔
        owner? connected (reports ++ [report]) port = some report.gamepad := by
  have claimed := Source.claimPort_inOrder follows.owners report.gamepad
  simpa only [owning, owner?, appearing, List.map_append, List.map_singleton,
    List.append_assoc] using claimed

theorem handle :
    (source.handle adapter report).value.source.Follows connected (reports ++ [report]) where
  owners := (source.owners_handle adapter report).trans (follows.claimPort report).1
  state := by
    intro port
    simp only [state_handle, ownChanges_concat, (follows.claimPort report).2, follows.state]
    split
    · rw [stateAfter, stateAfter, List.foldl_concat]
    · rw [List.append_nil]

theorem handled :
    countHandled connected (reports ++ [report]) =
      countHandled connected reports + (source.handle adapter report).value.handled := by
  have owned : (source.claimPort report.gamepad).value.1.isSome = true ↔
      report.gamepad ∈ owning connected (reports ++ [report]) := by
    simp only [Option.isSome_iff_exists, (follows.claimPort report).2, mem_owning_iff]
  simp only [countHandled_concat, handled_handle, owned]

/-- A poll keeps the source at the states of its reports and the adapter at the states of the
source, and counts the reports that were handled. -/
theorem poll (mirrored : ∀ port, adapter.state port = source.state port) (more : List Report) :
    let outcome := (source.poll adapter more).value
    outcome.source.Follows connected (reports ++ more) ∧
      (∀ port, outcome.adapter.state port = outcome.source.state port) ∧
      countHandled connected (reports ++ more) =
        countHandled connected reports + outcome.handled := by
  induction more generalizing reports source adapter with
  | nil => exact ⟨(List.append_nil reports).symm ▸ follows, mirrored, by simp [Source.poll]⟩
  | cons report more ih =>
      -- The induction is on the reports still to come: those handled move over to `reports`.
      obtain ⟨tracked, shown, counted⟩ := ih (follows.handle adapter report) _
        (source.mirror_handle adapter report mirrored)
      rw [List.append_assoc, List.singleton_append] at tracked counted
      rw [follows.handled adapter report, Nat.add_assoc] at counted
      exact ⟨tracked, shown, counted⟩

end Source.Follows

namespace Source

theorem attach_inOrder {source : Source} {names : List Nat}
    (inOrder : source.owners = names.eraseDups.take Port.count) (connected : List Nat) :
    (source.attach connected).value.owners = (names ++ connected).eraseDups.take Port.count ∧
      (source.attach connected).value.states = source.states := by
  induction connected generalizing source names with
  | nil => exact ⟨(List.append_nil names).symm ▸ inOrder, rfl⟩
  | cons gamepad connected ih =>
      have later := ih (claimPort_inOrder inOrder gamepad).1
      rw [List.append_assoc, List.singleton_append, states_claimPort] at later
      have step : (source.attach (gamepad :: connected)).value =
          ((source.claimPort gamepad).value.2.attach connected).value := by
        rw [attach, Logged.value_bind]
        rcases (source.claimPort gamepad).value with ⟨_ | port, claimed⟩ <;> rfl
      rwa [step]

theorem follows_connect (connected : List Nat) :
    (connect connected).value.Follows connected [] := by
  have vacated : vacant.owners = ([] : List Nat).eraseDups.take Port.count := rfl
  have attached := attach_inOrder vacated connected
  constructor
  case owners =>
    change (vacant.attach connected).value.owners = _
    simpa [owning, appearing] using attached.1
  case state =>
    intro port
    rw [ownChanges_nil]
    change (vacant.attach connected).value.states.get port = .idle
    rw [attached.2]
    exact PerPort.get_uniform _ port

end Source

end PadCapture.Gamepad
