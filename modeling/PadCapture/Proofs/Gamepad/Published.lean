import PadCapture.Gamepad.Source

/-!
# States published for gamepads

All that polling does to the adapter is to publish states, one for each report that changes
the state of a port.
-/

namespace PadCapture.Gamepad.Source

/-- The states that the source publishes for some reports, in order. -/
def published (source : Source) : List Report → List (Port × PortState)
  | [] => []
  | report :: reports =>
      let claimed := (source.claimPort report.gamepad).value.2
      match (source.claimPort report.gamepad).value.1 with
      | none => claimed.published reports
      | some port =>
          let changed := report.change.apply? (claimed.state port)
          match changed.value with
          | none => claimed.published reports
          | some shown => (port, shown) :: (claimed.setState port shown).published reports

/-- Polling the gamepads is publishing these states one after the other. -/
theorem adapter_poll (source : Source) (adapter : Adapter) (reports : List Report) :
    (source.poll adapter reports).value.adapter =
      (source.published reports).foldl
        (fun adapter entry => (adapter.update entry.1.val entry.2).value) adapter := by
  induction reports generalizing source adapter with
  | nil => rfl
  | cons report reports ih =>
      have later := ih (source.handle adapter report).value.source
        (source.handle adapter report).value.adapter
      rw [published]
      change ((source.handle adapter report).value.source.poll
        (source.handle adapter report).value.adapter reports).value.adapter = _
      rw [later]
      rw [handle, Logged.value_bind]
      rcases (source.claimPort report.gamepad).value with ⟨_ | port, claimed⟩
      · rfl
      · dsimp only
        rw [Logged.value_bind]
        generalize report.change.apply? (claimed.state port) = changed
        cases changed.value <;> rfl

end PadCapture.Gamepad.Source
