import PadCapture.Log.Event

/-!
# Results with events

An operation gives its result together with the events that it noted, oldest
first.  Running one operation after the other puts their events behind one
another.
-/

namespace PadCapture

structure Logged (α : Type) where
  value : α
  events : List Event

namespace Logged

def andThen {α β : Type} (first : Logged α) (next : α → Logged β) : Logged β :=
  ⟨(next first.value).value, first.events ++ (next first.value).events⟩

instance instMonad : Monad Logged where
  pure value := ⟨value, []⟩
  bind := andThen

def note (event : Event) : Logged Unit := ⟨(), [event]⟩

def noteIf (condition : Bool) (event : Event) : Logged Unit :=
  ⟨(), if condition then [event] else []⟩

variable {α β : Type}

@[simp] theorem value_pure (a : α) : (pure a : Logged α).value = a := rfl

@[simp] theorem events_pure (a : α) : (pure a : Logged α).events = [] := rfl

@[simp] theorem value_bind (first : Logged α) (next : α → Logged β) :
    (first >>= next).value = (next first.value).value := rfl

@[simp] theorem events_bind (first : Logged α) (next : α → Logged β) :
    (first >>= next).events = first.events ++ (next first.value).events := rfl

@[simp] theorem value_note (event : Event) : (note event).value = () := rfl

theorem bind_assoc {γ : Type} (first : Logged α) (next : α → Logged β) (last : β → Logged γ) :
    first >>= next >>= last = first >>= fun a => next a >>= last :=
  congrArg (Logged.mk _) (List.append_assoc ..)

theorem bind_pure (first : Logged α) : first >>= pure = first :=
  congrArg (Logged.mk first.value) (List.append_nil first.events)

/-- What comes after an operation matters only for the result that it gave. -/
theorem bind_congr_value {first : Logged α} {next other : α → Logged β}
    (same : next first.value = other first.value) : first >>= next = first >>= other := by
  change first.andThen next = first.andThen other
  rw [andThen, andThen, same]

def lines (events : List Event) (wanted : Level) : List String :=
  (events.filter fun event => event.level.shownAt wanted).map Event.line

end Logged

end PadCapture
