import PadCapture.Proofs.Bench.Registries
import PadCapture.Proofs.Bench.Sessions
import PadCapture.Proofs.Capture.Drain

/-!
# What holds capture mode open

Registrations and capturing sessions hold capture mode open, and the adapter only counts
them.  Its number is the sum of all openings and closings of a run, where a closing too
many is lost.  As long as nothing opens or closes capture mode without a registration or
a session, the number is that of the holders alive.
-/

namespace PadCapture.CaptureMode

inductive Change where
  | opened
  | closed
deriving DecidableEq, Repr

/-- The number of open sessions after a change.  Closing never goes below zero. -/
def Change.apply (openSessions : Nat) : Change → Nat
  | .opened => openSessions + 1
  | .closed => openSessions - 1

section Definitions

variable (bench : Bench) (name : String)

/-- Capture mode is closed once if a registration stands under the name. -/
def registrationClosed : List Change :=
  if (bench.registrations.find? name).isSome then [.closed] else []

/-- Capture mode is closed once if the name stands for a capturing session. -/
def sessionClosed : List Change := if bench.isCapturing name then [.closed] else []

/-- How often, and in which order, a command opens and closes capture mode.  What is
replaced is closed last. -/
def changes : Command → List Change
  | .adapter .beginCapture => [.opened]
  | .adapter .endCapture => [.closed]
  | .registration (.hold name) => .opened :: registrationClosed bench name
  | .registration (.release name) => registrationClosed bench name
  | .session (.launch name _) => .opened :: sessionClosed bench name
  | .session (.start name) => if (bench.sessionIn? .idle name).isSome then [.opened] else []
  | .session (.create name _) => sessionClosed bench name
  | .session (.stop name) => sessionClosed bench name
  | .session (.discard name) => sessionClosed bench name
  | _ => []

def runChanges (bench : Bench) : List Command → List Change
  | [] => []
  | command :: rest => changes bench command ++ runChanges (bench.perform command).value.2 rest

/-- The number of registrations and capturing sessions. -/
def holders : Nat :=
  bench.registrations.values.length + bench.sessions.values.countP Session.isCapturing

/-- All registrations alive: those under names of their own and those of the sessions. -/
def alive : List Registration :=
  bench.registrations.values ++ bench.sessions.values.filterMap Session.registration

/-- The command opens or closes capture mode for no registration and no session. -/
def isBare : Command → Bool
  | .adapter .beginCapture => true
  | .adapter .endCapture => true
  | _ => false

end Definitions

/-- The holders of capture mode and the number of open sessions are as before. -/
structure Undisturbed (before after : Bench) : Prop where
  registrations : after.registrations = before.registrations
  sessions : after.sessions = before.sessions
  openSessions : after.adapter.openSessions = before.adapter.openSessions

section Quiet

variable (bench : Bench)

theorem undisturbed_adapter (command : AdapterCommand)
    (notBare : isBare (.adapter command) = false) :
    Undisturbed bench (bench.performAdapter command).value.2 := by
  cases command with
  | beginCapture | endCapture => cases notBare
  | update number shown => exact ⟨rfl, rfl, bench.adapter.openSessions_update number shown⟩
  | push sample => exact ⟨rfl, rfl, bench.adapter.openSessions_push sample⟩
  | clearQueues | isConfiguring | readState | readStates | isPressed => exact ⟨rfl, rfl, rfl⟩

theorem openSessions_takeQueues (adapter : Adapter) (ports : List Port) :
    (Bench.takeQueues adapter ports).value.2.openSessions = adapter.openSessions := by
  induction ports generalizing adapter with
  | nil => rfl
  | cons port ports ih => exact ih (adapter.setQueue port [])

theorem undisturbed_queue (command : QueueCommand) :
    Undisturbed bench (bench.performQueue command).value.2 := by
  cases command with
  | pop number =>
      cases known : Port.ofNat? number with
      | none =>
          simp only [Bench.performQueue, known]
          exact ⟨rfl, rfl, rfl⟩
      | some port =>
          simp only [Bench.performQueue, known]
          refine ⟨rfl, rfl, ?_⟩
          change (bench.adapter.pop port).value.2.openSessions = _
          unfold Adapter.pop
          split <;> rfl
  | clear number | enqueue number =>
      cases known : Port.ofNat? number <;> simp only [Bench.performQueue, known] <;>
        exact ⟨rfl, rfl, rfl⟩
  | drain => exact ⟨rfl, rfl, openSessions_takeQueues bench.adapter Port.all⟩

theorem undisturbed_poller (command : PollerCommand) :
    Undisturbed bench (bench.performPoller command).value.2 := by
  cases command with
  | create name => exact ⟨rfl, rfl, rfl⟩
  | next name =>
      cases found : bench.pollers.find? name with
      | none =>
          simp only [Bench.performPoller, found]
          exact ⟨rfl, rfl, rfl⟩
      | some poller =>
          simp only [Bench.performPoller, found]
          exact ⟨rfl, rfl, poller.openSessions_next bench.adapter⟩
  | reset name =>
      cases found : bench.pollers.find? name <;> simp only [Bench.performPoller, found] <;>
        exact ⟨rfl, rfl, rfl⟩

theorem undisturbed_device (command : DeviceCommand) :
    Undisturbed bench (bench.performDevice command).value.2 := by
  cases command with
  | buttonOfText name text | stickOfText name text =>
      cases parsed : Params.parse text <;> simp only [Bench.performDevice, parsed] <;>
        exact ⟨rfl, rfl, rfl⟩
  | _ => exact ⟨rfl, rfl, rfl⟩

theorem openSessions_handle (source : Gamepad.Source) (adapter : Adapter)
    (report : Gamepad.Report) :
    (source.handle adapter report).value.adapter.openSessions = adapter.openSessions := by
  rw [Gamepad.Source.handle, Logged.value_bind]
  rcases (source.claimPort report.gamepad).value with ⟨_ | port, claimed⟩
  · rfl
  · dsimp only
    rw [Logged.value_bind]
    generalize report.change.apply? (claimed.state port) = changed
    cases changed.value with
    | none => rfl
    | some shown => exact adapter.openSessions_update port.val shown

theorem openSessions_poll (source : Gamepad.Source) (adapter : Adapter)
    (reports : List Gamepad.Report) :
    (source.poll adapter reports).value.adapter.openSessions = adapter.openSessions := by
  induction reports generalizing source adapter with
  | nil => rfl
  | cons report reports ih =>
      exact (ih _ _).trans (openSessions_handle source adapter report)

theorem undisturbed_gamepad (command : GamepadCommand) :
    Undisturbed bench (bench.performGamepad command).value.2 := by
  cases command with
  | connect | refuse => exact ⟨rfl, rfl, rfl⟩
  | report reports =>
      cases present : bench.gamepads with
      | none =>
          simp only [Bench.performGamepad, present]
          exact ⟨rfl, rfl, rfl⟩
      | some source =>
          simp only [Bench.performGamepad, present]
          exact ⟨rfl, rfl, openSessions_poll source bench.adapter reports⟩

end Quiet

section Fold

variable (bench : Bench) (name : String)

theorem foldl_registrationClosed (count : Nat) :
    (registrationClosed bench name).foldl Change.apply count =
      count - (bench.registrations.find? name).isSome.toNat := by
  unfold registrationClosed
  cases (bench.registrations.find? name).isSome <;> rfl

theorem foldl_sessionClosed (count : Nat) :
    (sessionClosed bench name).foldl Change.apply count =
      count - (bench.isCapturing name).toNat := by
  unfold sessionClosed
  cases bench.isCapturing name <;> rfl

theorem openSessions_dropSession (adapter : Adapter) :
    (Bench.dropSession adapter (bench.sessions.find? name)).value.openSessions =
      adapter.openSessions - (bench.isCapturing name).toNat := by
  rw [Bench.value_dropSession]
  cases bench.isCapturing name <;> rfl

end Fold

/-- What a command without a direct call does to the holders of capture mode: it leaves
them alone, or puts or removes one of them. -/
inductive Rearranged (before after : Bench) : List Change → Prop where
  | undisturbed (registrations : after.registrations = before.registrations)
      (sessions : after.sessions = before.sessions) : Rearranged before after []
  | held (name : String)
      (registrations : after.registrations = before.registrations.put name ⟨⟩)
      (sessions : after.sessions = before.sessions) :
      Rearranged before after (.opened :: registrationClosed before name)
  | released (name : String)
      (registrations : after.registrations = before.registrations.remove name)
      (sessions : after.sessions = before.sessions) :
      Rearranged before after (registrationClosed before name)
  | kept (name : String) (session : Session) (changes : List Change)
      (registrations : after.registrations = before.registrations)
      (sessions : after.sessions = before.sessions.put name session)
      (whole : session.phase = .idle → session.poller.held = none)
      -- The new session holds capture mode open if it captures, the old one no longer.
      (account : ∀ count, changes.foldl Change.apply count =
        count + session.isCapturing.toNat - (before.isCapturing name).toNat) :
      Rearranged before after changes
  | dropped (name : String)
      (registrations : after.registrations = before.registrations)
      (sessions : after.sessions = before.sessions.remove name) :
      Rearranged before after (sessionClosed before name)

/-- The adapter's count and the holders of capture mode follow the same changes. -/
structure Step (before after : Bench) (changes : List Change) : Prop where
  openSessions : after.adapter.openSessions =
    changes.foldl Change.apply before.adapter.openSessions
  rearranged : Rearranged before after changes

section Steps

variable (bench : Bench)

theorem Step.of_undisturbed {before after : Bench} (same : Undisturbed before after) :
    Step before after [] :=
  ⟨same.openSessions, .undisturbed same.registrations same.sessions⟩

theorem Step.refl : Step bench bench [] := ⟨rfl, .undisturbed rfl rfl⟩

variable {bench} in
theorem Step.of_put {adapter : Adapter} {name : String} {session : Session}
    {changes : List Change} (whole : session.phase = .idle → session.poller.held = none)
    (account : ∀ count, changes.foldl Change.apply count =
      count + session.isCapturing.toNat - (bench.isCapturing name).toNat)
    (openSessions : adapter.openSessions = bench.adapter.openSessions +
      session.isCapturing.toNat - (bench.isCapturing name).toNat) :
    Step bench { bench with adapter, sessions := bench.sessions.put name session } changes :=
  ⟨by rw [account]; exact openSessions, .kept name session changes rfl rfl whole account⟩

theorem step_registration (command : RegistrationCommand) :
    Step bench (bench.performRegistration command).value.2
      (changes bench (.registration command)) := by
  cases command with
  | hold name =>
      rw [Bench.hold_effect]
      refine ⟨?_, .held name rfl rfl⟩
      rw [changes, List.foldl_cons, foldl_registrationClosed]
      cases (bench.registrations.find? name).isSome <;> rfl
  | release name =>
      rw [Bench.release_effect]
      refine ⟨?_, .released name rfl rfl⟩
      rw [changes, foldl_registrationClosed]
      cases (bench.registrations.find? name).isSome <;> rfl

theorem held_fresh (kind : BindingKind) : (Poller.fresh kind).held = none := by
  cases kind <;> rfl

theorem step_session (command : SessionCommand) :
    Step bench (bench.performSession command).value.2 (changes bench (.session command)) := by
  cases command with
  | launch name kind =>
      rw [Bench.launch_result]
      refine .of_put (fun _ => held_fresh kind) (fun count => ?_)
        (openSessions_dropSession bench name _)
      exact foldl_sessionClosed bench name (count + 1)
  | create name kind =>
      rw [Bench.create_result]
      exact .of_put (fun _ => held_fresh kind) (foldl_sessionClosed bench name)
        (openSessions_dropSession bench name _)
  | start name =>
      cases found : bench.sessionIn? .idle name with
      | none =>
          rw [Bench.start_without_effect bench name found, changes, found]
          exact .refl bench
      | some session =>
          -- Only an idle session begins, so nothing is closed.
          have was := bench.isCapturing_of_idle name found
          rw [Bench.start_effect bench name found, changes, found]
          refine .of_put (fun _ => held_fresh session.kind) (fun count => ?_) ?_ <;>
            rw [was] <;> rfl
  | stop name =>
      cases found : bench.sessionIn? .capturing name with
      | none =>
          have was := bench.isCapturing_of_not_capturing name found
          rw [Bench.stop_without_effect bench name found, changes, sessionClosed, was]
          exact .refl bench
      | some session =>
          have was := bench.isCapturing_of_capturing name found
          rw [Bench.stop_effect bench name found]
          refine .of_put (fun _ => held_fresh session.kind) (foldl_sessionClosed bench name) ?_
          rw [was]
          rfl
  | discard name =>
      rw [Bench.discard_result]
      refine ⟨?_, .dropped name rfl rfl⟩
      rw [changes, foldl_sessionClosed]
      exact openSessions_dropSession bench name _
  | kind name => exact .refl bench
  | next name =>
      cases found : bench.sessionIn? .capturing name with
      | none =>
          rw [Bench.next_without_effect bench name found]
          exact .refl bench
      | some session =>
          have was := bench.isCapturing_of_capturing name found
          -- The poll keeps the phase, so the session holds capture mode open as before.
          have phase := (bench.sessionIn?_eq_some name found).2
          rw [Bench.next_effect bench name found]
          refine .of_put (fun idle => ?_) (fun count => ?_) ?_
          · rw [Session.phase_withPoller, phase] at idle
            cases idle
          · simp [changes, was, Session.isCapturing, phase]
          · simp [was, Session.isCapturing, phase]

theorem step_perform (command : Command) (notBare : isBare command = false) :
    Step bench (bench.perform command).value.2 (changes bench command) := by
  cases command with
  | adapter command =>
      have same := undisturbed_adapter bench command notBare
      cases command with
      | beginCapture | endCapture => cases notBare
      | _ => exact .of_undisturbed same
  | queue command => exact .of_undisturbed (undisturbed_queue bench command)
  | registration command => exact step_registration bench command
  | session command => exact step_session bench command
  | poller command => exact .of_undisturbed (undisturbed_poller bench command)
  | device command => exact .of_undisturbed (undisturbed_device bench command)
  | gamepad command => exact .of_undisturbed (undisturbed_gamepad bench command)

end Steps

/-- Every name stands once, and an idle session has no half binding. -/
structure Orderly (bench : Bench) : Prop where
  registrations : bench.registrations.Distinct
  sessions : bench.sessions.Distinct
  whole : ∀ name session, bench.sessions.find? name = some session →
    session.phase = .idle → session.poller.held = none

namespace Rearranged

variable {before after : Bench} {changes : List Change}

theorem orderly (rearranged : Rearranged before after changes) (orderly : Orderly before) :
    Orderly after := by
  obtain ⟨registrations, sessions, whole⟩ := orderly
  cases rearranged with
  | undisturbed sameRegistrations sameSessions =>
      exact ⟨sameRegistrations ▸ registrations, sameSessions ▸ sessions, sameSessions ▸ whole⟩
  | held name put sameSessions =>
      exact ⟨put ▸ registrations.put name ⟨⟩, sameSessions ▸ sessions, sameSessions ▸ whole⟩
  | released name removed sameSessions =>
      exact ⟨removed ▸ registrations.remove name, sameSessions ▸ sessions, sameSessions ▸ whole⟩
  | kept name session changes sameRegistrations put wholeSession account =>
      refine ⟨sameRegistrations ▸ registrations, put ▸ sessions.put name session, ?_⟩
      intro other found foundAt
      rw [put] at foundAt
      by_cases same : other = name
      · subst same
        rw [Registry.find?_put_self] at foundAt
        cases foundAt
        exact wholeSession
      · rw [Registry.find?_put_of_ne _ _ same] at foundAt
        exact whole other found foundAt
  | dropped name sameRegistrations removed =>
      refine ⟨sameRegistrations ▸ registrations, removed ▸ sessions.remove name, ?_⟩
      intro other found foundAt
      rw [removed] at foundAt
      by_cases same : other = name
      · subst same
        rw [Registry.find?_remove_self] at foundAt
        cases foundAt
      · rw [Registry.find?_remove_of_ne _ _ same] at foundAt
        exact whole other found foundAt

/-- The number of holders follows the changes that the command makes. -/
theorem holders (rearranged : Rearranged before after changes) (orderly : Orderly before) :
    holders after = changes.foldl Change.apply (holders before) := by
  unfold CaptureMode.holders
  cases rearranged with
  | undisturbed sameRegistrations sameSessions =>
      rw [sameRegistrations, sameSessions]
      rfl
  | held name put sameSessions =>
      have removed := orderly.registrations.length_remove name
      rw [put, sameSessions, Registry.length_put, List.foldl_cons, foldl_registrationClosed,
        Change.apply]
      omega
  | released name removedAt sameSessions =>
      have removed := orderly.registrations.length_remove name
      rw [removedAt, sameSessions, foldl_registrationClosed]
      omega
  | kept name session changes sameRegistrations put whole account =>
      have removed := orderly.sessions.countP_remove name Session.isCapturing
      rw [sameRegistrations, put, Registry.countP_put, account, Bench.isCapturing]
      omega
  | dropped name sameRegistrations removedAt =>
      have removed := orderly.sessions.countP_remove name Session.isCapturing
      rw [sameRegistrations, removedAt, foldl_sessionClosed, Bench.isCapturing]
      omega

end Rearranged

section Runs

variable (bench : Bench)

theorem openSessions_perform (command : Command) :
    (bench.perform command).value.2.adapter.openSessions =
      (changes bench command).foldl Change.apply bench.adapter.openSessions := by
  cases direct : isBare command with
  | false => exact (step_perform bench command direct).openSessions
  | true =>
      unfold isBare at direct
      split at direct
      · rfl
      · rfl
      · cases direct

theorem orderly_perform {bench : Bench} (orderly : Orderly bench) (command : Command) :
    Orderly (bench.perform command).value.2 := by
  cases direct : isBare command with
  | false => exact (step_perform bench command direct).rearranged.orderly orderly
  | true =>
      unfold isBare at direct
      split at direct
      · exact ⟨orderly.registrations, orderly.sessions, orderly.whole⟩
      · exact ⟨orderly.registrations, orderly.sessions, orderly.whole⟩
      · cases direct

theorem openSessions_run (commands : List Command) :
    (bench.run commands).value.2.adapter.openSessions =
      (runChanges bench commands).foldl Change.apply bench.adapter.openSessions := by
  induction commands generalizing bench with
  | nil => rfl
  | cons command commands ih =>
      rw [Bench.value_run_cons, runChanges, List.foldl_append, ← openSessions_perform]
      exact ih _

theorem orderly_run {bench : Bench} (orderly : Orderly bench) (commands : List Command) :
    Orderly (bench.run commands).value.2 :=
  Bench.run_preserves Orderly (fun _ => True) (fun before _ => orderly_perform before _) orderly
    fun _ _ => trivial

theorem openSessions_eq_holders {bench : Bench} (orderly : Orderly bench)
    (balanced : bench.adapter.openSessions = holders bench) (commands : List Command)
    (noneBare : ∀ command ∈ commands, isBare command = false) :
    (bench.run commands).value.2.adapter.openSessions = holders (bench.run commands).value.2 := by
  have accounted := Bench.run_preserves
    (fun bench => Orderly bench ∧ bench.adapter.openSessions = holders bench)
    (fun command => isBare command = false)
  refine (accounted ?step ⟨orderly, balanced⟩ noneBare).2
  rintro bench command ⟨orderly, balanced⟩ notBare
  have step := step_perform bench command notBare
  refine ⟨step.rearranged.orderly orderly, ?_⟩
  rw [step.openSessions, balanced, step.rearranged.holders orderly]

end Runs

section Holders

variable {bench : Bench} {name : String} {session : Session}

theorem holders_pos_iff (orderly : Orderly bench) :
    0 < holders bench ↔
      (∃ name registration, bench.registrations.find? name = some registration) ∨
        ∃ name session, bench.sessions.find? name = some session ∧
          session.phase = .capturing := by
  have registered := orderly.registrations.countP_pos_iff fun _ => true
  have capturing := orderly.sessions.countP_pos_iff Session.isCapturing
  simp only [List.countP_true, and_true] at registered
  simp only [Session.isCapturing, decide_eq_true_eq] at capturing
  rw [holders, Nat.add_pos_iff_pos_or_pos, registered, capturing]

/-- Every holder has one registration, either under its own name or by a session. -/
theorem length_alive (bench : Bench) : (alive bench).length = holders bench := by
  have held : ∀ session ∈ bench.sessions.values,
      session.registration.isSome = true ↔ session.isCapturing = true := by
    intro session _
    rw [session.isSome_registration]
  rw [alive, holders, List.length_append, List.length_filterMap_eq_countP, List.countP_congr held]

theorem adapter_discard (bench : Bench) (name : String) :
    (bench.performSession (.discard name)).value.2.adapter =
      if bench.isCapturing name then bench.adapter.endCapture.value else bench.adapter := by
  rw [Bench.discard_result, ← Bench.value_dropSession]

theorem discard_of_idle (found : bench.sessions.find? name = some session)
    (idle : session.phase = .idle) :
    (bench.performSession (.discard name)).value.2.adapter = bench.adapter := by
  rw [adapter_discard, Bench.isCapturing, found]
  simp [Session.isCapturing, idle]

theorem discard_of_capturing (found : bench.sessions.find? name = some session)
    (capturing : session.phase = .capturing) :
    (bench.performSession (.discard name)).value.2.adapter = bench.adapter.endCapture.value := by
  rw [adapter_discard, Bench.isCapturing, found]
  simp [Session.isCapturing, capturing]

theorem stop_of_capturing (found : bench.sessions.find? name = some session)
    (capturing : session.phase = .capturing) :
    (bench.performSession (.stop name)).value.2.adapter = bench.adapter.endCapture.value := by
  have present : bench.sessionIn? .capturing name = some session := by
    simp [Bench.sessionIn?, found, capturing]
  rw [Bench.stop_effect bench name present]

end Holders

theorem orderly_create (thresholdMode : ThresholdMode) (defaultDeadzone : Single) :
    Orderly (Bench.create thresholdMode defaultDeadzone).value where
  registrations := Registry.distinct_empty
  sessions := Registry.distinct_empty
  whole := fun _ _ found => nomatch found

/-- In every run the number of open sessions is the sum of what was opened and closed.
Without direct calls it is the number of registrations and capturing sessions, so that
capture mode is on just as long as one of them lives.  It is also the number of all
registrations that are alive: a capturing session has one of them, and an idle one has
neither a registration nor a half binding.  Dropping an idle session changes nothing at the
adapter; dropping a capturing one closes capture mode once, as ending it does. -/
theorem capture_mode_follows_holders (thresholdMode : ThresholdMode) (defaultDeadzone : Single)
    (commands : List Command) :
    let opening := (Bench.create thresholdMode defaultDeadzone).value
    let bench := (opening.run commands).value.2
    bench.adapter.openSessions = (runChanges opening commands).foldl Change.apply 0 ∧
      ((∀ command ∈ commands, isBare command = false) →
        bench.adapter.openSessions = holders bench ∧
          bench.adapter.openSessions = (alive bench).length ∧
          (bench.adapter.isConfiguring = true ↔
            (∃ name registration, bench.registrations.find? name = some registration) ∨
              ∃ name session, bench.sessions.find? name = some session ∧
                session.phase = .capturing)) ∧
      ∀ name session, bench.sessions.find? name = some session →
        (session.phase = .idle →
          session.registration = none ∧ session.poller.held = none ∧
            (bench.perform (.session (.discard name))).value.2.adapter = bench.adapter) ∧
        (session.phase = .capturing →
          (∃ registration, session.registration = some registration) ∧
            (bench.perform (.session (.discard name))).value.2.adapter =
              bench.adapter.endCapture.value ∧
            (bench.perform (.session (.discard name))).value.2.adapter =
              (bench.perform (.session (.stop name))).value.2.adapter) := by
  intro opening bench
  have orderly := orderly_run (orderly_create thresholdMode defaultDeadzone) commands
  refine ⟨openSessions_run opening commands, fun noneBare => ?_, fun name session found => ⟨?_, ?_⟩⟩
  · have counted := openSessions_eq_holders (orderly_create thresholdMode defaultDeadzone) rfl
      commands noneBare
    refine ⟨counted, counted.trans (length_alive bench).symm, ?_⟩
    rw [Adapter.isConfiguring_iff, counted]
    exact holders_pos_iff orderly
  · intro idle
    exact ⟨Session.registration_of_idle idle, orderly.whole name session found idle,
      discard_of_idle found idle⟩
  · intro capturing
    have held := session.isSome_registration_iff.mpr capturing
    have dropped := discard_of_capturing found capturing
    exact ⟨Option.isSome_iff_exists.mp held, dropped,
      dropped.trans (stop_of_capturing found capturing).symm⟩

/-- A registration and a capturing session keep capture mode open twice. -/
theorem capture_mode_follows_two_holders :
    let bench := ((Bench.create .fixed (.zero false)).value.run
      [.registration (.hold "held"), .session (.launch "own" .analog)]).value.2
    bench.adapter.openSessions = 2 ∧ bench.adapter.isConfiguring = true := by
  intro bench
  have counted := (capture_mode_follows_holders .fixed (.zero false)
    [.registration (.hold "held"), .session (.launch "own" .analog)]).2.1 (by decide)
  exact ⟨counted.1.trans (by decide), counted.2.2.mpr (.inl ⟨"held", ⟨⟩, by decide⟩)⟩

end PadCapture.CaptureMode
