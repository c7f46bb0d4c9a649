import PadCapture.Bench.Perform
import PadCapture.Proofs.Adapter.Queues

/-!
# Effects of session commands

What beginning, polling, ending and giving up a session does to its poller and to the
adapter, and what the commands of the bench do to the sessions that it keeps.
-/

namespace PadCapture

theorem Poller.value_reset (poller : Poller) : poller.reset.value = .fresh poller.kind := by
  cases poller with
  | button => rfl
  | analog held => cases held <;> rfl

namespace Session

variable (session : Session) (adapter : Adapter)

def isCapturing : Bool := session.phase = .capturing

theorem isSome_registration : session.registration.isSome = session.isCapturing := by
  rw [Bool.eq_iff_iff, session.isSome_registration_iff, isCapturing, decide_eq_true_iff]

theorem registration_of_idle {session : Session} (idle : session.phase = .idle) :
    session.registration = none := by
  rw [← Option.not_isSome_iff_eq_none, session.isSome_registration_iff, idle]
  exact Phase.noConfusion

theorem value_start : (session.start adapter).value =
    (.inPhase .capturing (.fresh session.kind), adapter.beginCapture.value) := by
  simp [start, Registration.acquire, Poller.value_reset, kind, inPhase]

theorem value_drop_registration : (Registration.drop session.registration adapter).value =
    if session.isCapturing then adapter.endCapture.value else adapter := by
  rw [Registration.value_drop, isSome_registration]

theorem value_stop : (session.stop adapter).value =
    (.inPhase .idle (.fresh session.kind),
      if session.isCapturing then adapter.endCapture.value else adapter) := by
  simp [stop, value_drop_registration, Poller.value_reset, kind]

theorem value_launch (kind : BindingKind) : (launch kind adapter).value =
    (.inPhase .capturing (.fresh kind), adapter.beginCapture.value) := by
  rw [launch, Logged.value_bind, value_start]
  cases kind <;> rfl

theorem value_next : (session.next adapter).value =
    (session.withPoller (session.poller.next adapter).value.poller,
      (session.poller.next adapter).value.binding, (session.poller.next adapter).value.rest) := by
  rw [next, Logged.value_bind]
  cases made : (session.poller.next adapter).value.binding <;> simp

end Session

namespace Bench

variable (bench : Bench) (name : String)

theorem value_run_cons (command : Command) (commands : List Command) :
    (bench.run (command :: commands)).value =
      ((bench.perform command).value.1 ::
          ((bench.perform command).value.2.run commands).value.1,
        ((bench.perform command).value.2.run commands).value.2) := by
  simp [run]

theorem value_run_append (commands more : List Command) :
    (bench.run (commands ++ more)).value =
      ((bench.run commands).value.1 ++ ((bench.run commands).value.2.run more).value.1,
        ((bench.run commands).value.2.run more).value.2) := by
  induction commands generalizing bench with
  | nil => rfl
  | cons command commands ih =>
      rw [List.cons_append, value_run_cons, value_run_cons, ih, List.cons_append]

/-- What every allowed command preserves holds after every run of allowed commands. -/
theorem run_preserves (motive : Bench → Prop) (allowed : Command → Prop)
    (step : ∀ {bench : Bench} {command : Command}, motive bench → allowed command →
      motive (bench.perform command).value.2)
    {bench : Bench} (start : motive bench) {commands : List Command}
    (all : ∀ command ∈ commands, allowed command) : motive (bench.run commands).value.2 := by
  induction commands generalizing bench with
  | nil => exact start
  | cons command commands ih =>
      rw [List.forall_mem_cons] at all
      rw [value_run_cons]
      exact ih (step start all.1) all.2

/-- The name stands for a capturing session. -/
def isCapturing : Bool := (bench.sessions.find? name).any Session.isCapturing

theorem value_dropSession (adapter : Adapter) :
    (dropSession adapter (bench.sessions.find? name)).value =
      if bench.isCapturing name then adapter.endCapture.value else adapter := by
  unfold isCapturing
  cases bench.sessions.find? name with
  | none => rfl
  | some session => simp [dropSession, Session.discard, Session.value_drop_registration]

/-- Giving up what a name stood for leaves the queues alone or empties them. -/
theorem queue_dropSession (adapter : Adapter) :
    (∀ port, (dropSession adapter (bench.sessions.find? name)).value.queue port =
        adapter.queue port) ∨
      ∀ port, (dropSession adapter (bench.sessions.find? name)).value.queue port = [] := by
  rw [value_dropSession]
  split
  · exact .inr fun port => Adapter.queue_endCapture adapter port
  · exact .inl fun port => rfl

theorem hold_effect :
    (bench.performRegistration (.hold name)).value.2 =
      { bench with
        adapter :=
          if (bench.registrations.find? name).isSome then
            bench.adapter.beginCapture.value.endCapture.value
          else bench.adapter.beginCapture.value
        registrations := bench.registrations.put name ⟨⟩ } := by
  simp [performRegistration, Registration.acquire, Registration.value_drop, withAdapter]

theorem release_effect :
    (bench.performRegistration (.release name)).value.2 =
      { bench with
        adapter :=
          if (bench.registrations.find? name).isSome then bench.adapter.endCapture.value
          else bench.adapter
        registrations := bench.registrations.remove name } := by
  simp [performRegistration, Registration.value_drop, withAdapter]

theorem launch_result (kind : BindingKind) :
    (bench.performSession (.launch name kind)).value.2 =
      { bench with
        adapter := (dropSession bench.adapter.beginCapture.value (bench.sessions.find? name)).value
        sessions := bench.sessions.put name (.inPhase .capturing (.fresh kind)) } := by
  simp [performSession, keepSession, Session.value_launch, withAdapter]

theorem create_result (kind : BindingKind) :
    (bench.performSession (.create name kind)).value.2 =
      { bench with
        adapter := (dropSession bench.adapter (bench.sessions.find? name)).value
        sessions := bench.sessions.put name (.inPhase .idle (.fresh kind)) } := by
  simp [performSession, keepSession, Session.create, withAdapter]

theorem discard_result :
    (bench.performSession (.discard name)).value.2 =
      { bench with
        adapter := (dropSession bench.adapter (bench.sessions.find? name)).value
        sessions := bench.sessions.remove name } := by
  simp [performSession, withAdapter]

theorem launch_effect (kind : BindingKind) :
    ∃ adapter : Adapter, (bench.performSession (.launch name kind)).value.2 =
        { bench with
          adapter, sessions := bench.sessions.put name (.inPhase .capturing (.fresh kind)) } ∧
      ∀ port, adapter.queue port = [] := by
  refine ⟨_, launch_result bench name kind, ?_⟩
  intro port
  rcases queue_dropSession bench name bench.adapter.beginCapture.value with kept | emptied
  · rw [kept, Adapter.queue_beginCapture]
  · exact emptied port

theorem create_effect (kind : BindingKind) :
    ∃ adapter : Adapter, (bench.performSession (.create name kind)).value.2 =
        { bench with adapter, sessions := bench.sessions.put name (.inPhase .idle (.fresh kind)) } ∧
      ((∀ port, adapter.queue port = bench.adapter.queue port) ∨
        ∀ port, adapter.queue port = []) :=
  ⟨_, create_result bench name kind, queue_dropSession bench name bench.adapter⟩

theorem discard_effect :
    ∃ adapter : Adapter, (bench.performSession (.discard name)).value.2 =
        { bench with adapter, sessions := bench.sessions.remove name } ∧
      ((∀ port, adapter.queue port = bench.adapter.queue port) ∨
        ∀ port, adapter.queue port = []) :=
  ⟨_, discard_result bench name, queue_dropSession bench name bench.adapter⟩

theorem sessionIn?_eq_some {phase : Session.Phase} {session : Session}
    (found : bench.sessionIn? phase name = some session) :
    bench.sessions.find? name = some session ∧ session.phase = phase := by
  unfold sessionIn? at found
  cases present : bench.sessions.find? name with
  | none => simp [present] at found
  | some other =>
      rw [present] at found
      by_cases samePhase : other.phase = phase
      · simp only [samePhase, if_true, Option.some.injEq] at found
        exact ⟨by rw [found], found ▸ samePhase⟩
      · simp [samePhase] at found

theorem start_effect {session : Session} (idle : bench.sessionIn? .idle name = some session) :
    (bench.performSession (.start name)).value.2 =
      { bench with
        adapter := bench.adapter.beginCapture.value
        sessions := bench.sessions.put name (.inPhase .capturing (.fresh session.kind)) } := by
  simp [performSession, idle, Session.value_start, withAdapter]

theorem start_without_effect (absent : bench.sessionIn? .idle name = none) :
    (bench.performSession (.start name)).value.2 = bench := by
  simp [performSession, absent, withAdapter]

theorem stop_effect {session : Session}
    (capturing : bench.sessionIn? .capturing name = some session) :
    (bench.performSession (.stop name)).value.2 =
      { bench with
        adapter := bench.adapter.endCapture.value
        sessions := bench.sessions.put name (.inPhase .idle (.fresh session.kind)) } := by
  have holds : session.isCapturing = true :=
    decide_eq_true (bench.sessionIn?_eq_some name capturing).2
  simp [performSession, capturing, Session.value_stop, holds, withAdapter]

theorem stop_without_effect (absent : bench.sessionIn? .capturing name = none) :
    (bench.performSession (.stop name)).value.2 = bench := by
  simp [performSession, absent, withAdapter]

theorem next_effect {session : Session}
    (capturing : bench.sessionIn? .capturing name = some session) :
    (bench.performSession (.next name)).value =
      (.binding (session.poller.next bench.adapter).value.binding,
        { bench with
          adapter := (session.poller.next bench.adapter).value.rest
          sessions := bench.sessions.put name
            (session.withPoller (session.poller.next bench.adapter).value.poller) }) := by
  simp [performSession, capturing, Session.value_next]

theorem next_without_effect (absent : bench.sessionIn? .capturing name = none) :
    (bench.performSession (.next name)).value = (.binding none, bench) := by
  simp [performSession, absent]

theorem isCapturing_of_idle {session : Session}
    (idle : bench.sessionIn? .idle name = some session) : bench.isCapturing name = false := by
  obtain ⟨found, phase⟩ := bench.sessionIn?_eq_some name idle
  simp [isCapturing, found, Session.isCapturing, phase]

theorem isCapturing_of_capturing {session : Session}
    (capturing : bench.sessionIn? .capturing name = some session) :
    bench.isCapturing name = true := by
  obtain ⟨found, phase⟩ := bench.sessionIn?_eq_some name capturing
  simp [isCapturing, found, Session.isCapturing, phase]

theorem isCapturing_of_not_capturing (absent : bench.sessionIn? .capturing name = none) :
    bench.isCapturing name = false := by
  unfold sessionIn? at absent
  unfold isCapturing
  cases found : bench.sessions.find? name with
  | none => rfl
  | some session =>
      rw [found] at absent
      simpa [Session.isCapturing] using absent

end Bench

end PadCapture
