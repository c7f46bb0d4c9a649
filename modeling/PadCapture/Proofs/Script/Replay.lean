import PadCapture.Proofs.Script.Steps
import PadCapture.Script.Playback

/-!
# Replays of scripts

A replay that is carried out up to some moment has applied the steps that are due before
this moment, in order and each once.  What it has published is therefore decided by the
moment, and a cancelled replay is one that is carried out up to its cancellation.
-/

namespace PadCapture

/-- What a step publishes: the number of a port and a state. -/
def Step.update (step : Step) : Nat × PortState := (step.port, step.state)

/-- The update that an event of a replay announces. -/
def Event.update? : Event → Option (Nat × PortState)
  | .stepApplied port state => some (port, state)
  | _ => none

/-- The updates that a replay has announced, each of which it makes at once. -/
def announced (events : List Event) : List (Nat × PortState) := events.filterMap Event.update?

/-- The adapter after the updates of some steps. -/
def Adapter.afterSteps (adapter : Adapter) (steps : List Step) : Adapter :=
  steps.foldl (fun adapter step => (adapter.update step.port step.state).value) adapter

theorem announced_append (events more : List Event) :
    announced (events ++ more) = announced events ++ announced more := List.filterMap_append

theorem announced_update (adapter : Adapter) (port : Nat) (state : PortState) :
    announced (adapter.update port state).events = [] := by
  unfold Adapter.update
  split
  · rfl
  · dsimp only
    split <;> rfl

namespace Playback

theorem announced_finish (playback : Playback) : announced playback.finish.events = [] := by
  change announced ((if !playback.script.steps.isEmpty then _ else _) ++ []) = []
  cases playback.script.steps.isEmpty <;> rfl

theorem announced_cancel (playback : Playback) : announced playback.cancel.events = [] := by
  change announced ((if !playback.ended then _ else _) ++ []) = []
  cases playback.ended <;> rfl

/-- The playback has applied the first `count` steps of a script that began at `start`, and is
somewhere in a round. -/
structure IsAt (script : Script) (start count : Nat) (playback : Playback) : Prop where
  plays : playback.script = script
  applied : playback.applied = count
  last : playback.last = start + script.due count
  place : ∃ rounds place, count = rounds * script.steps.length + place ∧
    place ≤ script.steps.length ∧ (rounds = 0 ∨ script.repeats = true) ∧
    playback.upcoming = script.steps.drop place

variable {script : Script} {start count : Nat} {playback : Playback}

theorem isAt_begin : (begin script start).IsAt script start 0 where
  plays := rfl
  applied := rfl
  last := rfl
  place := ⟨0, 0, by simp, Nat.zero_le _, .inl rfl, rfl⟩

namespace IsAt

theorem finish (isAt : playback.IsAt script start count) :
    playback.finish.value.IsAt script start count :=
  ⟨isAt.plays, isAt.applied, isAt.last, isAt.place⟩

/-- At the end of a script there is no next step. -/
theorem stepAt?_eq_none (isAt : playback.IsAt script start count)
    (noNext : playback.next? = none) : script.stepAt? count = none := by
  obtain ⟨rounds, place, rfl, inside, again, upcoming⟩ := isAt.place
  rcases Nat.lt_or_eq_of_le inside with inRound | rfl
  · rw [next?, upcoming, List.drop_eq_getElem_cons inRound] at noNext
    contradiction
  · rw [script.stepAt?_rounds again]
    rw [next?, upcoming, List.drop_length, isAt.plays] at noNext
    cases repeats : script.repeats with
    | false => rfl
    | true =>
        rw [repeats] at noNext
        cases steps : script.steps with
        | nil => rfl
        | cons step rest => simp [steps] at noNext

/-- The next step is that of the script, and applying it leads to the place behind it. -/
theorem advance (isAt : playback.IsAt script start count) {step : Step} {rest : List Step}
    (next : playback.next? = some (step, rest)) :
    script.stepAt? count = some step ∧
      (playback.advance step rest).IsAt script start (count + 1) := by
  have found : script.stepAt? count = some step ∧
      ∃ rounds place, count + 1 = rounds * script.steps.length + place ∧
        place ≤ script.steps.length ∧ (rounds = 0 ∨ script.repeats = true) ∧
        rest = script.steps.drop place := by
    obtain ⟨rounds, place, rfl, inside, again, upcoming⟩ := isAt.place
    rcases Nat.lt_or_eq_of_le inside with inRound | rfl
    · rw [next?, upcoming, List.drop_eq_getElem_cons inRound] at next
      obtain ⟨rfl, rfl⟩ : script.steps[place] = step ∧ script.steps.drop (place + 1) = rest := by
        simpa using next
      rw [script.stepAt?_round again inRound, List.getElem?_eq_getElem inRound]
      exact ⟨rfl, rounds, place + 1, Nat.add_assoc .., inRound, again, rfl⟩
    · rw [script.stepAt?_rounds again]
      rw [next?, upcoming, List.drop_length, isAt.plays] at next
      -- Here a new round begins.
      cases repeats : script.repeats with
      | false => simp [repeats] at next
      | true =>
          rw [repeats] at next
          cases steps : script.steps with
          | nil => simp [steps] at next
          | cons first others =>
              obtain ⟨rfl, rfl⟩ : first = step ∧ others = rest := by simpa [steps] using next
              refine ⟨rfl, rounds + 1, 1, ?_, by simp, .inr rfl, rfl⟩
              rw [Nat.succ_mul]
  refine ⟨found.1, isAt.plays, congrArg (· + 1) isAt.applied, ?_, found.2⟩
  change playback.last + step.delay = _
  rw [isAt.last, script.due_succ found.1, Nat.add_assoc]

end IsAt

/-- An outcome of applying more steps of a playback, all of which are due before a limit. -/
structure Applies (script : Script) (start limit count : Nat) (before : Adapter)
    (outcome : Logged (Playback × Adapter)) (more : List Step) : Prop where
  isAt : outcome.value.1.IsAt script start (count + more.length)
  steps : script.firstSteps (count + more.length) = script.firstSteps count ++ more
  adapter : outcome.value.2 = before.afterSteps more
  announced : announced outcome.events = more.map Step.update
  inTime : more ≠ [] → start + script.due (count + more.length) < limit

/-- One more step comes before the others. -/
theorem Applies.cons {limit : Nat} {before : Adapter} {step : Step}
    (next : script.stepAt? count = some step) (inTime : start + script.due (count + 1) < limit)
    {outcome : Logged (Playback × Adapter)} {more : List Step}
    (applies : Applies script start limit (count + 1)
      (before.update step.port step.state).value outcome more) :
    Applies script start limit count before
      ⟨outcome.value, .stepApplied step.port step.state ::
        ((before.update step.port step.state).events ++ outcome.events)⟩ (step :: more) := by
  have count_eq : count + (step :: more).length = count + 1 + more.length := by
    rw [List.length_cons]
    omega
  constructor
  case isAt =>
    rw [count_eq]
    exact applies.isAt
  case steps =>
    rw [count_eq, applies.steps, script.firstSteps_succ, next, List.append_assoc]
    rfl
  case adapter => exact applies.adapter
  case announced =>
    have others := announced_append (before.update step.port step.state).events outcome.events
    rw [announced_update, applies.announced] at others
    exact congrArg (step.update :: ·) others
  case inTime =>
    intro _
    rw [count_eq]
    cases more with
    | nil => exact inTime
    | cons => exact applies.inTime (List.cons_ne_nil _ _)

/-- The playback has nothing more to apply before the limit. -/
inductive Rests (script : Script) (start limit count : Nat) (playback : Playback) : Prop where
  | ended (isOver : playback.ended = true) (last : script.stepAt? count = none)
  | waiting (goesOn : playback.ended = false) {step : Step}
      (next : script.stepAt? count = some step)
      (later : limit ≤ start + script.due (count + 1))

namespace IsAt

theorem applies_nothing (isAt : playback.IsAt script start count) (limit : Nat)
    (adapter : Adapter) {events : List Event} (silent : announced events = []) :
    Applies script start limit count adapter ⟨(playback, adapter), events⟩ [] where
  isAt := isAt
  steps := (List.append_nil _).symm
  adapter := rfl
  announced := silent
  inTime := fun some => absurd rfl some

/-- The loop applies steps in order until it rests or has used up its fuel. -/
theorem applyDue (isAt : playback.IsAt script start count) (running : playback.ended = false)
    (limit fuel : Nat) (adapter : Adapter) :
    ∃ more, Applies script start limit count adapter
        (Playback.applyDue limit fuel playback adapter) more ∧
      (more.length = fuel ∨ (Playback.applyDue limit fuel playback adapter).value.1.Rests script
        start limit (count + more.length)) := by
  induction fuel generalizing count playback adapter with
  | zero => exact ⟨[], isAt.applies_nothing limit adapter rfl, .inl rfl⟩
  | succ fuel ih =>
      rw [Playback.applyDue]
      cases following : playback.next? with
      | none =>
          have silent : announced (playback.finish.events ++ []) = [] := by
            rw [announced_append, announced_finish]
            rfl
          exact ⟨[], isAt.finish.applies_nothing limit adapter silent,
            .inr (.ended rfl (isAt.stepAt?_eq_none following))⟩
      | some entry =>
          obtain ⟨step, rest⟩ := entry
          obtain ⟨next, advanced⟩ := isAt.advance following
          have moment : playback.last + step.delay = start + script.due (count + 1) := by
            rw [isAt.last, script.due_succ next, Nat.add_assoc]
          dsimp only
          rw [moment]
          by_cases inTime : start + script.due (count + 1) < limit
          · rw [if_pos inTime]
            obtain ⟨more, applies, stops⟩ := ih advanced running
              (adapter.update step.port step.state).value
            refine ⟨step :: more, applies.cons next inTime, ?_⟩
            rw [List.length_cons, ← Nat.add_assoc, Nat.add_right_comm]
            exact stops.imp_left (congrArg (· + 1))
          · rw [if_neg inTime]
            exact ⟨[], isAt.applies_nothing limit adapter rfl,
              .inr (.waiting running next (Nat.not_lt.mp inTime))⟩

end IsAt

end Playback

/-- All that a replay publishes are the first `count` steps of its script, one after the other. -/
structure Script.Publishes (script : Script) (before : Adapter) (count : Nat) (after : Adapter)
    (events : List Event) : Prop where
  exist : (script.firstSteps count).length = count
  announced : announced events = (script.firstSteps count).map Step.update
  adapter : after = before.afterSteps (script.firstSteps count)

namespace Playback

variable {script : Script} {start : Nat}

section Beginning

variable {limit : Nat} {before : Adapter} {outcome : Logged (Playback × Adapter)}
  {more : List Step} (applies : Applies script start limit 0 before outcome more)

include applies

theorem Applies.firstSteps_eq : script.firstSteps more.length = more := by
  simpa [Script.firstSteps] using applies.steps

theorem Applies.due_lt (some : more ≠ []) : start + script.due more.length < limit := by
  simpa using applies.inTime some

theorem Applies.publishes :
    script.Publishes before more.length outcome.value.2 outcome.events := by
  constructor <;> rw [applies.firstSteps_eq]
  case announced => exact applies.announced
  case adapter => exact applies.adapter

/-- A playback that rests has applied the steps that are due before the limit. -/
theorem Applies.made_iff (rests : outcome.value.1.Rests script start limit more.length) {n : Nat}
    {step : Step} (stands : script.stepAt? n = some step) :
    n < more.length ↔ start + script.due (n + 1) < limit := by
  constructor
  · intro made
    have last := applies.due_lt (List.ne_nil_of_length_pos (Nat.zero_lt_of_lt made))
    exact Nat.lt_of_le_of_lt (Nat.add_le_add_left (script.due_mono made) start) last
  · intro inTime
    by_contra unmade
    rw [Nat.not_lt] at unmade
    cases rests with
    | ended isOver last =>
        rw [script.stepAt?_eq_none_of_le last unmade] at stands
        contradiction
    | waiting goesOn next later =>
        have after : script.due (more.length + 1) ≤ script.due (n + 1) :=
          script.due_mono (Nat.succ_le_succ unmade)
        omega

/-- The fuel is more than enough: either the script ends before, or its rounds take so much time
that the limit is reached before. -/
theorem Applies.length_ne_fuelFor (timed : script.isEndless = true → 0 < script.length) :
    more.length ≠ (begin script start).fuelFor limit := by
  intro spent
  have fuel : more.length = (limit - start + 2) * (script.steps.length + 1) := spent
  cases endless : script.isEndless with
  | false =>
      have ends := script.length_firstSteps_le (script.stepAt?_length_eq_none endless) more.length
      rw [applies.firstSteps_eq, fuel] at ends
      have atLeast : script.steps.length + 1 ≤
          (limit - start + 2) * (script.steps.length + 1) :=
        Nat.le_mul_of_pos_left _ (Nat.succ_pos _)
      omega
  | true =>
      -- So many steps make at least as many rounds as there are moments before the limit.
      have repeats : script.repeats = true := (Bool.and_eq_true_iff.mp endless).1
      have rounds : (limit - start) * script.steps.length ≤ more.length := by
        rw [fuel]
        exact Nat.mul_le_mul (Nat.le_add_right ..) (Nat.le_succ _)
      have late := script.le_due_of_rounds_le repeats (timed endless) rounds
      have some : more ≠ [] := by
        rintro rfl
        simp at fuel
      have inTime := applies.due_lt some
      omega

end Beginning

theorem Rests.ended_iff {limit count : Nat} {playback : Playback}
    (rests : playback.Rests script start limit count) :
    playback.ended = true ↔ script.stepAt? count = none := by
  cases rests with
  | ended isOver last => exact iff_of_true isOver last
  | waiting goesOn next later =>
      apply iff_of_false
      · exact Bool.eq_false_iff.mp goesOn
      · rw [next]
        exact Option.some_ne_none _

/-- Up to any moment a replay publishes the steps that are due before. -/
theorem publishes_runTo (timed : script.isEndless = true → 0 < script.length)
    (start moment : Nat) (before : Adapter) :
    let outcome := (begin script start).runTo moment before
    let count := outcome.value.1.applied
    script.Publishes before count outcome.value.2 outcome.events ∧
      (∀ n step, script.stepAt? n = some step →
        (n < count ↔ start + script.due (n + 1) < moment)) ∧
      outcome.value.1.last = start + script.due count ∧
      (outcome.value.1.ended = true ↔ script.stepAt? count = none) := by
  intro outcome count
  have isAt : (begin script start).IsAt script start 0 := isAt_begin
  obtain ⟨more, applies, stops⟩ :=
    isAt.applyDue rfl moment ((begin script start).fuelFor moment) before
  have rests := stops.resolve_left (applies.length_ne_fuelFor timed)
  have applied := applies.isAt.applied
  have last := applies.isAt.last
  rw [Nat.zero_add] at rests applied last
  have count_eq : count = more.length := applied
  rw [count_eq]
  exact ⟨applies.publishes, fun n step => applies.made_iff rests, last, rests.ended_iff⟩

end Playback

namespace Script

variable {script : Script}

theorem play?_eq {cancelAt : Option Nat} {horizon : Nat}
    (upTo : script.horizon? cancelAt = some horizon) (before : Adapter) :
    script.play? cancelAt before =
      let reached := (Playback.begin script 0).runTo horizon before
      let playback := reached.value.1
      let elapsed := if playback.ended then playback.last else horizon
      some ⟨⟨playback.applied, elapsed, reached.value.2⟩,
        reached.events ++ playback.cancel.events⟩ := by
  rw [play?, upTo]
  exact congrArg some (congrArg (Logged.mk _) (congrArg (_ ++ ·) (List.append_nil _)))

/-- A replay with an outcome has published the steps that are due before its horizon. -/
theorem publishes_play? (timed : script.isEndless = true → 0 < script.length)
    {cancelAt : Option Nat} {horizon : Nat} (upTo : script.horizon? cancelAt = some horizon)
    (before : Adapter) :
    ∃ outcome, script.play? cancelAt before = some outcome ∧
      script.Publishes before outcome.value.applied outcome.value.adapter outcome.events ∧
      (∀ n step, script.stepAt? n = some step →
        (n < outcome.value.applied ↔ script.due (n + 1) < horizon)) ∧
      (script.stepAt? outcome.value.applied = none →
        outcome.value.elapsed = script.due outcome.value.applied) := by
  obtain ⟨publishes, made_iff, last, ended_iff⟩ :=
    Playback.publishes_runTo timed 0 horizon before
  simp only [Nat.zero_add] at made_iff last
  refine ⟨_, play?_eq upTo before, ⟨publishes.exist, ?_, publishes.adapter⟩, made_iff, ?_⟩
  · rw [announced_append, publishes.announced, Playback.announced_cancel, List.append_nil]
  · intro allDone
    exact (if_pos (ended_iff.mpr allDone)).trans last

/-- A script that ends has published all its steps when its replay is over. -/
theorem play?_to_end (ends : script.isEndless = false) (before : Adapter) :
    ∃ outcome, script.play? none before = some outcome ∧
      script.Publishes before script.steps.length outcome.value.adapter outcome.events ∧
      outcome.value.applied = script.steps.length ∧ outcome.value.elapsed = script.length := by
  have notEndless : script.isEndless = true → 0 < script.length := by simp [ends]
  have upTo : script.horizon? none = some (script.length + 1) := by simp [horizon?, ends]
  obtain ⟨outcome, replayed, publishes, made_iff, elapsed⟩ :=
    publishes_play? notEndless upTo before
  have whole : script.due script.steps.length = script.length := by
    rw [due, script.firstSteps_length ends, length]
  have allDone : script.stepAt? script.steps.length = none := script.stepAt?_length_eq_none ends
  have applied : outcome.value.applied = script.steps.length := by
    apply Nat.le_antisymm
    · rw [← publishes.exist]
      exact script.length_firstSteps_le allDone _
    · cases next : script.stepAt? outcome.value.applied with
      | none =>
          simpa only [script.firstSteps_length ends] using
            script.length_firstSteps_le next script.steps.length
      | some step =>
          by_contra missing
          have inTime : script.due (outcome.value.applied + 1) < script.length + 1 :=
            Nat.lt_succ_of_le (whole ▸ script.due_mono (Nat.not_le.mp missing))
          exact absurd ((made_iff _ step next).mpr inTime) (Nat.lt_irrefl _)
  rw [applied] at publishes elapsed
  exact ⟨outcome, replayed, publishes, applied, (elapsed allDone).trans whole⟩

theorem play?_of_steps_eq_nil (empty : script.steps = []) (cancelAt : Option Nat)
    (before : Adapter) : script.play? cancelAt before = some ⟨⟨0, 0, before⟩, []⟩ := by
  obtain ⟨steps, repeats⟩ := script
  subst empty
  obtain ⟨horizon, upTo⟩ :
      ∃ horizon, (⟨[], repeats⟩ : Script).horizon? cancelAt = some horizon := by
    cases cancelAt <;> simp [horizon?, isEndless]
  have fuel : (Playback.begin ⟨[], repeats⟩ 0).fuelFor horizon = horizon + 1 + 1 := by
    simp [Playback.fuelFor, Playback.begin]
  rw [play?_eq upTo, Playback.runTo, fuel, Playback.applyDue]
  cases repeats <;> rfl

/-- Where no timer cuts a delay or the time of the cancellation, a replay is exact. -/
theorem replay?_eq_play? (short : ∀ step ∈ script.steps, step.delay ≤ Clock.longestTimer)
    {cancelAt : Option Nat} (soon : ∀ millis ∈ cancelAt, millis ≤ Clock.longestTimer)
    (before : Adapter) : script.replay? cancelAt before = script.play? cancelAt before := by
  have kept : cancelAt.map Clock.timerOf = cancelAt := by
    cases cancelAt with
    | none => rfl
    | some millis => exact congrArg some (Clock.timerOf_eq (soon millis rfl))
  rw [replay?, script.onTimers_eq short, kept]

end Script

/-- A script that is played publishes a prefix of its steps, or of their endless repetition: the
steps that are due before the moment it has come to, each after the sum of the delays up to it.
It counts them, it leaves the adapter as their updates do, and it ends with the last step of a
script that does not repeat, or at once if there is no step.  A replay plays what the timers
make of the script, and this is the script itself unless a delay is longer than any timer. -/
theorem replay_publishes_due_steps (script : Script) (before : Adapter)
    (timed : script.isEndless = true → 0 < (script.steps.map Step.delay).sum) :
    (∀ start moment,
      let outcome := (Playback.begin script start).runTo moment before
      let count := outcome.value.1.applied
      script.Publishes before count outcome.value.2 outcome.events ∧
        ∀ n step, script.stepAt? n = some step →
          (n < count ↔ start + script.due (n + 1) < moment)) ∧
    (∀ cancelAt, ∃ outcome, script.play? (some cancelAt) before = some outcome ∧
      script.Publishes before outcome.value.applied outcome.value.adapter outcome.events ∧
      ∀ n step, script.stepAt? n = some step →
        (script.due (n + 1) < cancelAt → n < outcome.value.applied) ∧
        (cancelAt < script.due (n + 1) → ¬ n < outcome.value.applied)) ∧
    (script.isEndless = false → ∃ outcome, script.play? none before = some outcome ∧
      script.Publishes before script.steps.length outcome.value.adapter outcome.events ∧
      script.firstSteps script.steps.length = script.steps ∧
      outcome.value.applied = script.steps.length ∧ outcome.value.elapsed = script.length) ∧
    (script.isEndless = true → script.play? none before = none) ∧
    (script.steps = [] → ∀ cancelAt,
      script.play? cancelAt before = some ⟨⟨0, 0, before⟩, []⟩) ∧
    (∀ count, script.due count = ((script.firstSteps count).map Step.delay).sum) ∧
    (∀ cancelAt, script.replay? cancelAt before =
      script.onTimers.play? (cancelAt.map Clock.timerOf) before) ∧
    ((∀ step ∈ script.steps, step.delay ≤ Clock.longestTimer) →
      ∀ cancelAt, (∀ millis ∈ cancelAt, millis ≤ Clock.longestTimer) →
        script.replay? cancelAt before = script.play? cancelAt before) := by
  have takesTime : script.isEndless = true → 0 < script.length := by
    rw [Script.length, Script.lengthOf_eq_sum]
    exact timed
  refine ⟨?_, ?_, ?_, ?_, ?_, fun count => Script.lengthOf_eq_sum _, fun _ => rfl,
    fun short _ soon => Script.replay?_eq_play? short soon before⟩
  · intro start moment
    obtain ⟨publishes, made_iff, _⟩ := Playback.publishes_runTo takesTime start moment before
    exact ⟨publishes, made_iff⟩
  · intro cancelAt
    have upTo : script.horizon? (some cancelAt) = some cancelAt := by
      rw [Script.horizon?, if_neg]
      intro both
      obtain ⟨endless, instant⟩ : script.isEndless = true ∧ script.length = 0 := by
        simpa using both
      exact absurd instant (Nat.pos_iff_ne_zero.mp (takesTime endless))
    obtain ⟨outcome, replayed, publishes, made_iff, -⟩ :=
      Script.publishes_play? takesTime upTo before
    refine ⟨outcome, replayed, publishes, fun n step next => ⟨(made_iff n step next).mpr, ?_⟩⟩
    intro late made
    exact Nat.lt_asymm late ((made_iff n step next).mp made)
  · intro ends
    obtain ⟨outcome, replayed, publishes, applied, elapsed⟩ := Script.play?_to_end ends before
    exact ⟨outcome, replayed, publishes, script.firstSteps_length ends, applied, elapsed⟩
  · intro endless
    simp [Script.play?, Script.horizon?, endless]
  · exact fun empty cancelAt => Script.play?_of_steps_eq_nil empty cancelAt before

/-- The built-in script, cancelled after half a second, has pressed the button and released it. -/
theorem replay_publishes_due_steps_of_demo :
    ∃ outcome, Script.demo.replay? (some 500) .initial = some outcome ∧
      outcome.value.applied = 2 := by
  obtain ⟨-, cancelled, -, -, -, -, -, uncut⟩ :=
    replay_publishes_due_steps Script.demo .initial (by decide)
  obtain ⟨outcome, played, -, due⟩ := cancelled 500
  have replayed := uncut (by decide) (some 500) (by simp [Clock.longestTimer])
  refine ⟨outcome, replayed.trans played, ?_⟩
  have released := (due 1 _ rfl).1 (by decide)
  have notMoved := (due 2 _ rfl).2 (by decide)
  omega

end PadCapture
