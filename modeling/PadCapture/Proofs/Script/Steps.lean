import PadCapture.Script.Basic
import Mathlib.Algebra.Ring.Nat
import Mathlib.Data.List.Basic

/-!
# Steps of a script in order

A script that repeats goes through its steps again and again, so it gives an endless sequence
of steps; any other script gives its steps once.  A step is due when the waits of all steps up
to this one are over.
-/

namespace PadCapture.Script

variable (script : Script)

/-- The step that follows after `count` steps. -/
def stepAt? (count : Nat) : Option Step :=
  script.steps[if script.repeats then count % script.steps.length else count]?

/-- The first `count` steps, or all if there are fewer. -/
def firstSteps (count : Nat) : List Step := (List.range count).filterMap script.stepAt?

/-- The time that the first `count` steps take. -/
def due (count : Nat) : Nat := lengthOf (script.firstSteps count)

theorem lengthOf_append (steps more : List Step) :
    lengthOf (steps ++ more) = lengthOf steps + lengthOf more := by
  induction steps with
  | nil => simp [lengthOf]
  | cons step steps ih => simp [lengthOf, ih, Nat.add_assoc]

theorem lengthOf_eq_sum (steps : List Step) : lengthOf steps = (steps.map Step.delay).sum := by
  induction steps with
  | nil => rfl
  | cons step steps ih => rw [lengthOf, ih, List.map_cons, List.sum_cons]

theorem firstSteps_succ (count : Nat) :
    script.firstSteps (count + 1) = script.firstSteps count ++ (script.stepAt? count).toList := by
  rw [firstSteps, List.range_succ, List.filterMap_append]
  cases next : script.stepAt? count <;> simp [firstSteps, next]

theorem due_succ {count : Nat} {step : Step} (next : script.stepAt? count = some step) :
    script.due (count + 1) = script.due count + step.delay := by
  rw [due, firstSteps_succ, lengthOf_append, next]
  rfl

theorem due_mono {count more : Nat} (le : count ≤ more) : script.due count ≤ script.due more := by
  induction le with
  | refl => exact Nat.le_refl _
  | step _ ih =>
      refine Nat.le_trans ih ?_
      rw [due, due, firstSteps_succ, lengthOf_append]
      exact Nat.le_add_right ..

/-- A script that has ended does not go on. -/
theorem stepAt?_eq_none_of_le {count more : Nat} (ended : script.stepAt? count = none)
    (le : count ≤ more) : script.stepAt? more = none := by
  rw [stepAt?, List.getElem?_eq_none_iff] at ended ⊢
  cases repeats : script.repeats with
  | false => simpa [repeats] using Nat.le_trans (by simpa [repeats] using ended) le
  | true =>
      have empty : script.steps.length = 0 := by
        by_contra some
        have := Nat.mod_lt count (Nat.pos_of_ne_zero some)
        simp only [repeats, if_true] at ended
        omega
      simp [empty]

theorem stepAt?_length_eq_none (ends : script.isEndless = false) :
    script.stepAt? script.steps.length = none := by
  rw [stepAt?]
  cases repeats : script.repeats with
  | false => simp
  | true =>
      have empty : script.steps = [] := by simpa [isEndless, repeats] using ends
      simp [empty]

/-- There are no more steps than the script has before its end. -/
theorem length_firstSteps_le {ending : Nat} (ended : script.stepAt? ending = none)
    (count : Nat) : (script.firstSteps count).length ≤ ending := by
  induction count with
  | zero => exact Nat.zero_le _
  | succ count ih =>
      rw [firstSteps_succ]
      rcases Nat.lt_or_ge count ending with before | after
      · have short : (script.firstSteps count).length ≤ count := by
          simpa [firstSteps] using List.length_filterMap_le script.stepAt? (List.range count)
        have one : (script.stepAt? count).toList.length ≤ 1 := by
          cases script.stepAt? count <;> simp
        rw [List.length_append]
        omega
      · rw [script.stepAt?_eq_none_of_le ended after]
        simpa using ih

/-- Inside a round the steps follow in their order. -/
theorem stepAt?_round {rounds place : Nat} (again : rounds = 0 ∨ script.repeats = true)
    (inside : place < script.steps.length) :
    script.stepAt? (rounds * script.steps.length + place) = script.steps[place]? := by
  rw [stepAt?]
  rcases again with rfl | repeats
  · simp [Nat.mod_eq_of_lt inside]
  · simp [repeats, Nat.mod_eq_of_lt inside]

/-- After a whole round the script begins again or is over. -/
theorem stepAt?_rounds {rounds : Nat} (again : rounds = 0 ∨ script.repeats = true) :
    script.stepAt? (rounds * script.steps.length + script.steps.length) =
      if script.repeats then script.steps[0]? else none := by
  rw [stepAt?]
  cases repeats : script.repeats with
  | false =>
      obtain rfl : rounds = 0 := by simpa [repeats] using again
      simp
  | true => simp

theorem firstSteps_round {rounds place : Nat} (again : rounds = 0 ∨ script.repeats = true)
    (inside : place ≤ script.steps.length) :
    script.firstSteps (rounds * script.steps.length + place) =
      script.firstSteps (rounds * script.steps.length) ++ script.steps.take place := by
  induction place with
  | zero => simp
  | succ place ih =>
      rw [← Nat.add_assoc, firstSteps_succ, ih (Nat.le_of_lt inside),
        script.stepAt?_round again inside, List.take_add_one, List.append_assoc]

/-- A script that does not repeat goes through its steps once. -/
theorem firstSteps_of_once (once : script.repeats = false) (count : Nat) :
    script.firstSteps count = script.steps.take count := by
  induction count with
  | zero => rfl
  | succ count ih => rw [firstSteps_succ, ih, stepAt?, once, List.take_add_one]; rfl

theorem firstSteps_length (ends : script.isEndless = false) :
    script.firstSteps script.steps.length = script.steps := by
  cases repeats : script.repeats with
  | false => rw [script.firstSteps_of_once repeats, List.take_length]
  | true =>
      have empty : script.steps = [] := by simpa [isEndless, repeats] using ends
      rw [empty]
      rfl

/-- A script that repeats goes through its steps again and again. -/
theorem firstSteps_rounds (repeats : script.repeats = true) (rounds : Nat) :
    script.firstSteps (rounds * script.steps.length) =
      (List.replicate rounds script.steps).flatten := by
  induction rounds with
  | zero => simp [firstSteps]
  | succ rounds ih =>
      rw [Nat.succ_mul, script.firstSteps_round (.inr repeats) (Nat.le_refl _), ih,
        List.take_length, List.replicate_succ', List.flatten_concat]

theorem due_rounds (repeats : script.repeats = true) (rounds : Nat) :
    script.due (rounds * script.steps.length) = rounds * script.length := by
  rw [due, script.firstSteps_rounds repeats]
  induction rounds with
  | zero => simp [lengthOf]
  | succ rounds ih =>
      rw [List.replicate_succ', List.flatten_concat, lengthOf_append, ih, Nat.succ_mul]
      rfl

/-- If the rounds take time, every moment is over after as many rounds. -/
theorem le_due_of_rounds_le (repeats : script.repeats = true) (timed : 0 < script.length)
    {moment count : Nat} (rounds : moment * script.steps.length ≤ count) :
    moment ≤ script.due count :=
  calc
    moment ≤ moment * script.length := Nat.le_mul_of_pos_right _ timed
    _ = script.due (moment * script.steps.length) := (script.due_rounds repeats moment).symm
    _ ≤ script.due count := script.due_mono rounds

/-- A script without a delay that a timer cuts is carried out as it is. -/
theorem onTimers_eq (short : ∀ step ∈ script.steps, step.delay ≤ Clock.longestTimer) :
    script.onTimers = script := by
  have kept : ∀ step ∈ script.steps,
      ({ step with delay := Clock.timerOf step.delay } : Step) = id step := by
    intro step member
    rw [Clock.timerOf_eq (short step member)]
    rfl
  rw [onTimers, List.map_congr_left kept, List.map_id]

end PadCapture.Script
