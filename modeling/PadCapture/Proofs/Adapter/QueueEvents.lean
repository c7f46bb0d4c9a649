import PadCapture.Pad.Sample
import Mathlib.Data.List.DropRight

/-!
# What happens to a queue

A queue accepts samples at its end, hands them out at its front and is cleared now and
then.  A history that can be carried out determines the queue: it holds what was accepted
since the last clearing, in this order, without as many samples at the front as were
popped since.
-/

namespace PadCapture

inductive QueueEvent where
  | accepted (sample : Sample)
  | popped
  | cleared
deriving DecidableEq

namespace QueueEvent

/-- The queue after an event.  An empty queue has nothing to pop. -/
def act? (queue : List Sample) : QueueEvent → Option (List Sample)
  | accepted sample => some (queue ++ [sample])
  | popped => queue.tail?
  | cleared => some []

/-- The queue after a history, if every pop of the history finds a sample. -/
def replay? (queue : List Sample) (events : List QueueEvent) : Option (List Sample) :=
  events.foldlM act? queue

/-- The events after the last clearing. -/
def sinceCleared (events : List QueueEvent) : List QueueEvent :=
  events.rtakeWhile fun event => event ≠ cleared

def sample? : QueueEvent → Option Sample
  | accepted sample => some sample
  | popped | cleared => none

def acceptedSamples (events : List QueueEvent) : List Sample := events.filterMap sample?

def popCount (events : List QueueEvent) : Nat := events.count popped

section Replay

variable (queue : List Sample)

theorem replay?_append (earlier later : List QueueEvent) :
    replay? queue (earlier ++ later) =
      (replay? queue earlier).bind fun between => replay? between later := by
  rw [replay?, List.foldlM_append]
  rfl

theorem replay?_accepted (samples : List Sample) :
    replay? queue (samples.map accepted) = some (queue ++ samples) := by
  induction samples generalizing queue with
  | nil => exact congrArg some (List.append_nil queue).symm
  | cons sample samples ih =>
      have later := ih (queue ++ [sample])
      rwa [List.append_assoc] at later

theorem replay?_popped {count : Nat} (enough : count ≤ queue.length) :
    replay? queue (List.replicate count popped) = some (queue.drop count) := by
  induction count generalizing queue with
  | zero => rfl
  | succ count ih =>
      cases queue with
      | nil => exact absurd enough (Nat.not_succ_le_zero count)
      | cons sample rest => exact ih rest (Nat.le_of_succ_le_succ enough)

/-- Clearing a queue again has no further effect. -/
theorem replay?_cleared {α : Type} (causes : List α) :
    replay? queue (causes.map fun _ => cleared) = some (if causes = [] then queue else []) := by
  induction causes generalizing queue with
  | nil => rfl
  | cons cause causes ih =>
      have later := ih []
      rw [ite_self] at later
      rw [if_neg (List.cons_ne_nil cause causes)]
      exact later

end Replay

section Law

theorem sinceCleared_concat_cleared (events : List QueueEvent) :
    sinceCleared (events ++ [cleared]) = [] := by
  apply List.rtakeWhile_concat_neg
  simp

theorem sinceCleared_concat_of_ne (events : List QueueEvent) {event : QueueEvent}
    (other : event ≠ cleared) :
    sinceCleared (events ++ [event]) = sinceCleared events ++ [event] := by
  apply List.rtakeWhile_concat_pos
  exact decide_eq_true other

/-- A queue that was empty at first holds what was accepted since the last clearing,
without the samples popped since; and no more samples were popped than accepted. -/
theorem eq_drop_of_replay? {events : List QueueEvent} {queue : List Sample}
    (replayed : replay? [] events = some queue) :
    popCount (sinceCleared events) ≤ (acceptedSamples (sinceCleared events)).length ∧
      queue = (acceptedSamples (sinceCleared events)).drop (popCount (sinceCleared events)) := by
  induction events using List.reverseRecOn generalizing queue with
  | nil =>
      cases replayed
      exact ⟨Nat.zero_le _, rfl⟩
  | append_singleton events event ih =>
      rw [replay?_append, Option.bind_eq_some_iff] at replayed
      obtain ⟨before, replayedBefore, applied⟩ := replayed
      obtain ⟨enough, before_eq⟩ := ih replayedBefore
      have after : act? before event = some queue := by
        simpa [replay?] using applied
      cases event with
      | accepted sample =>
          have other : accepted sample ≠ cleared := by simp
          have samples : acceptedSamples (sinceCleared events ++ [accepted sample]) =
              acceptedSamples (sinceCleared events) ++ [sample] := by
            simp [acceptedSamples, sample?]
          have pops : popCount (sinceCleared events ++ [accepted sample]) =
              popCount (sinceCleared events) := by
            simp [popCount]
          cases after
          rw [sinceCleared_concat_of_ne events other, samples, pops, List.length_append, before_eq,
            List.drop_append_of_le_length enough]
          exact ⟨Nat.le_add_right_of_le enough, rfl⟩
      | popped =>
          have other : popped ≠ cleared := by simp
          have samples : acceptedSamples (sinceCleared events ++ [popped]) =
              acceptedSamples (sinceCleared events) := by
            simp [acceptedSamples, sample?]
          have pops : popCount (sinceCleared events ++ [popped]) =
              popCount (sinceCleared events) + 1 := by
            simp [popCount]
          rw [sinceCleared_concat_of_ne events other, samples, pops]
          -- The pop found a sample, so one more had been accepted than popped before.
          cases before with
          | nil => cases after
          | cons first rest =>
              cases after
              have longer := congrArg List.length before_eq
              rw [List.length_drop, List.length_cons] at longer
              refine ⟨by omega, ?_⟩
              rw [← List.tail_drop, ← before_eq]
              rfl
      | cleared =>
          cases after
          rw [sinceCleared_concat_cleared]
          exact ⟨Nat.le_refl 0, rfl⟩

end Law

end QueueEvent

end PadCapture
