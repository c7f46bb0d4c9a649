import PadCapture.Capture.Timed
import PadCapture.Proofs.Bench.Sessions
import PadCapture.Proofs.Capture.Bindings
import Mathlib.Algebra.Order.Floor.Div

/-!
# The course of a timed capture

A capture polls its session at the start and then once per interval.  The polls that it makes
are the first ones of an endless sequence of polls: up to the first one that gives a binding or
comes at or after the timeout.  Between two polls only the feed acts on the adapter.
-/

namespace PadCapture

variable {Source : Type}

theorem Scene.after_bind {α : Type} (feed : Feed Source) (step : Nat) (scene : Scene Source)
    (next : Scene Source → Logged α) :
    scene.after feed step >>= next = feed scene.source (scene.now + step) scene.adapter >>=
      fun fed => next ⟨fed.1, fed.2, scene.now + step⟩ :=
  Logged.bind_assoc ..

/-- The adapter is the same but for its queues. -/
structure Adapter.SameButQueues (before after : Adapter) : Prop where
  state : ∀ port, after.state port = before.state port
  openSessions : after.openSessions = before.openSessions

namespace Session

section Definitions

variable (session : Session) (feed : Feed Source) (step : Nat) (scene : Scene Source)

/-- The poll with a number and all polls before it, made whatever comes of them. -/
def pollAt : (number : Nat) → Logged (Attempt Source)
  | 0 => session.attempt scene
  | number + 1 => do
      let attempted ← pollAt number
      let scene ← attempted.scene.after feed step
      attempted.session.attempt scene

/-- The scene that the poll with a number finds. -/
def sceneAt : (number : Nat) → Scene Source
  | 0 => scene
  | number + 1 => ((session.pollAt feed step scene number).value.scene.after feed step).value

/-- How a capture goes on after a poll. -/
def goOn (deadline : Nat) (attempted : Attempt Source) : Logged (Attempt Source) :=
  if attempted.binding.isSome then return attempted
  else if attempted.scene.now < deadline ∧ 0 < step then do
    let scene ← attempted.scene.after feed step
    pollUntil feed step deadline attempted.session scene
  else return attempted

/-- The poll with a number gives a binding or comes at or after the timeout. -/
def Ends (timeout number : Nat) : Prop :=
  (session.pollAt feed step scene number).value.binding.isSome ∨ timeout ≤ number * step

/-- The capture makes `last + 1` polls, the first one at the start and the others `step`
milliseconds apart: up to the first one that gives a binding or comes at or after the timeout.
No poll touches more than the queues. -/
structure Course (timeout last : Nat) : Prop where
  polls : session.pollUntil feed step (scene.now + timeout) scene =
    session.pollAt feed step scene last
  few : last ≤ timeout ⌈/⌉ step
  now : ∀ number, (session.sceneAt feed step scene number).now = scene.now + number * step
  vain : ∀ number < last, (session.pollAt feed step scene number).value.binding = none
  early : ∀ number < last, number * step < timeout
  late : (session.pollAt feed step scene last).value.binding = none → timeout ≤ last * step
  source : ∀ number, (session.pollAt feed step scene number).value.scene.source =
    (session.sceneAt feed step scene number).source
  adapter : ∀ number, (session.sceneAt feed step scene number).adapter.SameButQueues
    (session.pollAt feed step scene number).value.scene.adapter

/-- What a capture comes to when its last poll has been made. -/
structure Concluded (polled : Attempt Source) (kind : BindingKind) (outcome : Attempt Source) :
    Prop where
  binding : outcome.binding = polled.binding
  session : outcome.session = .inPhase .idle (.fresh kind)
  source : outcome.scene.source = polled.scene.source
  now : outcome.scene.now = polled.scene.now
  openSessions : outcome.scene.adapter.openSessions = polled.scene.adapter.openSessions - 1
  queue : ∀ port, outcome.scene.adapter.queue port = []
  state : ∀ port, outcome.scene.adapter.state port = polled.scene.adapter.state port

end Definitions

section Attempts

variable (session : Session) (scene : Scene Source)

theorem value_attempt : (session.attempt scene).value =
    ⟨session.withPoller (session.poller.next scene.adapter).value.poller,
      (session.poller.next scene.adapter).value.binding,
      { scene with adapter := (session.poller.next scene.adapter).value.rest }⟩ := by
  simp [attempt, value_next]

theorem phase_attempt : (session.attempt scene).value.session.phase = session.phase := by
  rw [value_attempt, phase_withPoller]

theorem kind_attempt : (session.attempt scene).value.session.kind = session.kind := by
  rw [value_attempt]
  exact (session.poller.portsDrained scene.adapter Port.all).kind

theorem sameButQueues_attempt :
    scene.adapter.SameButQueues (session.attempt scene).value.scene.adapter := by
  rw [value_attempt]
  exact ⟨session.poller.state_next scene.adapter, session.poller.openSessions_next scene.adapter⟩

end Attempts

section Loop

variable (session : Session) (feed : Feed Source) {step : Nat} (deadline : Nat)
  (scene : Scene Source)

theorem pollUntil_eq_goOn :
    session.pollUntil feed step deadline scene =
      session.attempt scene >>= goOn feed step deadline := by
  rw [pollUntil]
  apply Logged.bind_congr_value
  rw [goOn, Scene.after_bind, value_attempt]

variable {feed} {deadline} {attempted : Attempt Source}

theorem goOn_of_bound (bound : attempted.binding.isSome) :
    goOn feed step deadline attempted = pure attempted := by
  rw [goOn, if_pos bound]

theorem goOn_of_late (late : deadline ≤ attempted.scene.now) :
    goOn feed step deadline attempted = pure attempted := by
  have finished : ¬ (attempted.scene.now < deadline ∧ 0 < step) :=
    fun early => Nat.not_lt.mpr late early.1
  rw [goOn, if_neg finished, ite_self]

theorem goOn_of_early (vain : attempted.binding = none) (early : attempted.scene.now < deadline)
    (passes : 0 < step) :
    goOn feed step deadline attempted =
      (attempted.scene.after feed step >>= attempted.session.attempt) >>=
        goOn feed step deadline := by
  have unbound : ¬ attempted.binding.isSome := by simp [vain]
  rw [goOn, if_neg unbound, if_pos ⟨early, passes⟩, Logged.bind_assoc]
  apply Logged.bind_congr_value
  exact pollUntil_eq_goOn _ _ _ _

end Loop

section Polls

variable (session : Session) (feed : Feed Source) {step : Nat} {timeout : Nat}
  (scene : Scene Source)

theorem pollAt_eq (number : Nat) :
    ∃ before : Session, (before.phase = session.phase ∧ before.kind = session.kind) ∧
      (session.pollAt feed step scene number).value =
        (before.attempt (session.sceneAt feed step scene number)).value := by
  induction number with
  | zero => exact ⟨session, ⟨rfl, rfl⟩, rfl⟩
  | succ number ih =>
      obtain ⟨before, ⟨phase, kind⟩, polled⟩ := ih
      refine ⟨(session.pollAt feed step scene number).value.session, ⟨?_, ?_⟩, rfl⟩
      · rw [polled, phase_attempt, phase]
      · rw [polled, kind_attempt, kind]

theorem phase_pollAt (number : Nat) :
    (session.pollAt feed step scene number).value.session.phase = session.phase := by
  obtain ⟨before, ⟨phase, _⟩, polled⟩ := session.pollAt_eq feed scene number
  rw [polled, phase_attempt, phase]

theorem kind_pollAt (number : Nat) :
    (session.pollAt feed step scene number).value.session.kind = session.kind := by
  obtain ⟨before, ⟨_, kind⟩, polled⟩ := session.pollAt_eq feed scene number
  rw [polled, kind_attempt, kind]

theorem sameButQueues_pollAt (number : Nat) :
    (session.sceneAt feed step scene number).adapter.SameButQueues
      (session.pollAt feed step scene number).value.scene.adapter := by
  obtain ⟨before, _, polled⟩ := session.pollAt_eq feed scene number
  rw [polled]
  exact before.sameButQueues_attempt _

theorem source_pollAt (number : Nat) :
    (session.pollAt feed step scene number).value.scene.source =
      (session.sceneAt feed step scene number).source := by
  obtain ⟨before, _, polled⟩ := session.pollAt_eq feed scene number
  rw [polled, value_attempt]

theorem now_pollAt_eq_sceneAt (number : Nat) :
    (session.pollAt feed step scene number).value.scene.now =
      (session.sceneAt feed step scene number).now := by
  obtain ⟨before, _, polled⟩ := session.pollAt_eq feed scene number
  rw [polled, value_attempt]

theorem now_sceneAt (number : Nat) :
    (session.sceneAt feed step scene number).now = scene.now + number * step := by
  induction number with
  | zero => rw [Nat.zero_mul]; rfl
  | succ number ih =>
      change (session.pollAt feed step scene number).value.scene.now + step = _
      rw [now_pollAt_eq_sceneAt, ih, Nat.succ_mul, Nat.add_assoc]

/-- As long as nothing ends it, a capture makes the polls of the sequence. -/
theorem pollUntil_eq_pollAt (passes : 0 < step) {number : Nat}
    (goesOn : ∀ earlier < number, ¬ session.Ends feed step scene timeout earlier) :
    session.pollUntil feed step (scene.now + timeout) scene =
      session.pollAt feed step scene number >>= goOn feed step (scene.now + timeout) := by
  -- One more round of the loop is one more poll of the sequence.
  induction number with
  | zero => exact session.pollUntil_eq_goOn feed (scene.now + timeout) scene
  | succ number ih =>
      obtain ⟨vain, early⟩ := not_or.mp (goesOn number (Nat.lt_succ_self number))
      have beforeDeadline :
          (session.pollAt feed step scene number).value.scene.now < scene.now + timeout := by
        rw [now_pollAt_eq_sceneAt, now_sceneAt]
        omega
      rw [ih fun earlier before => goesOn earlier (Nat.lt_succ_of_lt before), pollAt,
        Logged.bind_assoc]
      apply Logged.bind_congr_value
      exact goOn_of_early (by simpa using vain) beforeDeadline passes

theorem pollUntil_eq_of_ends (passes : 0 < step) {last : Nat}
    (ends : session.Ends feed step scene timeout last)
    (goesOn : ∀ earlier < last, ¬ session.Ends feed step scene timeout earlier) :
    session.pollUntil feed step (scene.now + timeout) scene =
      session.pollAt feed step scene last := by
  have finished : goOn feed step (scene.now + timeout) (session.pollAt feed step scene last).value =
      pure (session.pollAt feed step scene last).value := by
    rcases ends with bound | late
    · exact goOn_of_bound bound
    · apply goOn_of_late
      rw [now_pollAt_eq_sceneAt, now_sceneAt]
      omega
  calc
    session.pollUntil feed step (scene.now + timeout) scene
      = session.pollAt feed step scene last >>= goOn feed step (scene.now + timeout) :=
        session.pollUntil_eq_pollAt feed scene passes goesOn
    _ = session.pollAt feed step scene last >>= pure := Logged.bind_congr_value finished
    _ = session.pollAt feed step scene last := Logged.bind_pure _

/-- Some poll ends the capture, at the latest the first one at or after the timeout. -/
theorem exists_last (timeout : Nat) (passes : 0 < step) :
    ∃ last ≤ timeout ⌈/⌉ step, session.Ends feed step scene timeout last ∧
      ∀ earlier < last, ¬ session.Ends feed step scene timeout earlier := by
  classical
  have late : timeout ≤ (timeout ⌈/⌉ step) * step := by
    rw [Nat.mul_comm]
    exact le_smul_ceilDiv passes
  -- Whatever the polls give, the timeout ends the sequence.
  have ends : ∃ number, session.Ends feed step scene timeout number :=
    ⟨timeout ⌈/⌉ step, .inr late⟩
  exact ⟨Nat.find ends, Nat.find_min' ends (.inr late), Nat.find_spec ends,
    fun earlier before => Nat.find_min ends before⟩

theorem openSessions_sceneAt
    (keeps : ∀ source moment adapter,
      (feed source moment adapter).value.2.openSessions = adapter.openSessions) (number : Nat) :
    (session.sceneAt feed step scene number).adapter.openSessions =
      scene.adapter.openSessions := by
  induction number with
  | zero => rfl
  | succ number ih =>
      have fed : (session.sceneAt feed step scene (number + 1)).adapter.openSessions =
          (session.pollAt feed step scene number).value.scene.adapter.openSessions := keeps _ _ _
      rw [fed, (session.sameButQueues_pollAt feed scene number).openSessions, ih]

end Polls

section Captures

variable (session : Session) (feed : Feed Source) {step : Nat} (timeout : Nat)
  (scene : Scene Source)

theorem exists_course (passes : 0 < step) :
    ∃ last, session.Course feed step scene timeout last := by
  obtain ⟨last, few, ends, goesOn⟩ := session.exists_last feed scene timeout passes
  have before (number : Nat) (earlier : number < last) :=
    not_or.mp (goesOn number earlier)
  refine ⟨last, session.pollUntil_eq_of_ends feed scene passes ends goesOn, few,
    session.now_sceneAt feed scene, ?vain, ?early, ?late, session.source_pollAt feed scene,
    session.sameButQueues_pollAt feed scene⟩
  case vain => exact fun number earlier => by simpa using (before number earlier).1
  case early => exact fun number earlier => Nat.lt_of_not_le (before number earlier).2
  case late => exact fun vain => ends.resolve_left (by simp [vain])

theorem value_captureEvery :
    (session.captureEvery feed step timeout scene).value =
      let polled := (session.pollUntil feed step (scene.now + timeout) scene).value
      ⟨.inPhase .idle (.fresh polled.session.kind), polled.binding,
        { polled.scene with
          adapter := if polled.session.isCapturing then polled.scene.adapter.endCapture.value
            else polled.scene.adapter }⟩ := by
  simp [captureEvery, value_stop]

theorem outcome_of_course (capturing : session.phase = .capturing) {last : Nat}
    (course : session.Course feed step scene timeout last) :
    Concluded (session.pollAt feed step scene last).value session.kind
      (session.captureEvery feed step timeout scene).value := by
  have kind : (session.pollAt feed step scene last).value.session.kind = session.kind :=
    session.kind_pollAt feed scene last
  have holds : (session.pollAt feed step scene last).value.session.isCapturing = true :=
    decide_eq_true ((session.phase_pollAt feed scene last).trans capturing)
  rw [value_captureEvery, course.polls]
  dsimp only
  rw [if_pos holds]
  exact
    { binding := rfl
      session := congrArg (fun kind => Session.inPhase .idle (.fresh kind)) kind
      source := rfl
      now := rfl
      openSessions := rfl
      queue := Adapter.queue_endCapture _
      state := Adapter.state_endCapture _ }

/-- With a capturing session, a capture polls at the start and once per interval, up to the
first poll that gives a binding or, if none before does, the first one at or after the timeout.
It answers what the last poll gave, empties the queues and closes capture mode once; all else is
left as the feed made it.  So capture mode has one holder less if the feed opens and closes
none. -/
theorem capture_ends_by_deadline (capturing : session.phase = .capturing) {interval : Nat}
    (passes : 0 < interval) :
    let outcome := (session.captureEvery feed interval timeout scene).value
    (∃ last, session.Course feed interval scene timeout last ∧
        Concluded (session.pollAt feed interval scene last).value session.kind outcome) ∧
      ((∀ source moment adapter,
          (feed source moment adapter).value.2.openSessions = adapter.openSessions) →
        0 < scene.adapter.openSessions →
          outcome.scene.adapter.openSessions + 1 = scene.adapter.openSessions) ∧
      session.capture feed ⟨interval, timeout⟩ scene =
        session.captureEvery feed interval timeout scene := by
  intro outcome
  obtain ⟨last, course⟩ := session.exists_course feed timeout scene passes
  have ended := session.outcome_of_course feed timeout scene capturing course
  refine ⟨⟨last, course, ended⟩, fun keeps holder => ?_, rfl⟩
  have during := (course.adapter last).openSessions
  rw [session.openSessions_sceneAt feed scene keeps last] at during
  rw [ended.openSessions, during]
  omega

/-- A press at the last tick is bound, although the timeout has passed by then. -/
theorem capture_ends_by_deadline_with_late_press :
    let pressed : PortState := { PortState.idle with buttons := .a }
    let feed : Feed Unit := fun _ moment adapter =>
      if moment = 30 then do return ((), ← adapter.update 2 pressed) else return ((), adapter)
    let session : Session := .inPhase .capturing .button
    let outcome :=
      (session.captureEvery feed 10 25 ⟨(), Adapter.initial.beginCapture.value, 0⟩).value
    outcome.scene.now = 30 ∧ outcome.binding.isSome ∧
      outcome.scene.adapter.isConfiguring = false := by
  intro pressed feed session
  obtain ⟨⟨last, course, ended⟩, _⟩ := session.capture_ends_by_deadline feed 25
    ⟨(), Adapter.initial.beginCapture.value, 0⟩ rfl (show 0 < 10 by decide)
  have vain : ∀ number < 3, (session.pollAt feed 10
      ⟨(), Adapter.initial.beginCapture.value, 0⟩ number).value.binding = none := by
    decide +kernel
  have last_eq : last = 3 := by
    have few : last ≤ 3 := course.few
    by_contra different
    have late := course.late (vain last (by omega))
    omega
  subst last_eq
  refine ⟨?_, ?_, ?_⟩
  · rw [ended.now]
    decide +kernel
  · rw [ended.binding]
    decide +kernel
  · rw [Adapter.isConfiguring, ended.openSessions]
    decide +kernel

end Captures

end Session

end PadCapture
