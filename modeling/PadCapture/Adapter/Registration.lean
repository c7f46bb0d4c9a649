import PadCapture.Adapter.Basic

/-!
# Registrations

A registration is a share in capture mode.  Capture mode is opened once for each of them,
and giving it up closes capture mode again.
-/

namespace PadCapture

/-- A share in capture mode.  It says nothing but that there is one. -/
structure Registration where
deriving DecidableEq, Repr

namespace Registration

def acquire (adapter : Adapter) : Logged (Registration × Adapter) := do
  let adapter ← adapter.beginCapture
  return (⟨⟩, adapter)

/-- Give up a registration, if there is one. -/
def drop (held : Option Registration) (adapter : Adapter) : Logged Adapter :=
  match held with
  | some _ => adapter.endCapture
  | none => return adapter

theorem value_drop (held : Option Registration) (adapter : Adapter) :
    (drop held adapter).value = if held.isSome then adapter.endCapture.value else adapter := by
  cases held <;> rfl

end Registration

end PadCapture
