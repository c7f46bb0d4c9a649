import PadCapture.Proofs.Bench.Sessions

/-!
# The pollers of a bench

A bench polls through its capture sessions and through bare pollers.  After a command, each
of its pollers is one from before, one that has just polled, or one that starts anew.
-/

namespace PadCapture

namespace Registry

variable {α : Type} {registry : Registry α} {name other : String} {found : α}

theorem of_find?_put {value : α} (present : (registry.put name value).find? other = some found) :
    found = value ∨ registry.find? other = some found := by
  by_cases same : other = name
  · rw [same, find?_put_self] at present
    cases present
    exact .inl rfl
  · rw [find?_put_of_ne _ _ same] at present
    exact .inr present

theorem of_find?_remove (present : (registry.remove name).find? other = some found) :
    registry.find? other = some found := by
  by_cases same : other = name
  · rw [same, find?_remove_self] at present
    cases present
  · rwa [find?_remove_of_ne _ _ same] at present

end Registry

namespace Bench

variable (bench : Bench) {poller : Poller}

/-- The poller is that of a session or a bare one. -/
def Polls (poller : Poller) : Prop :=
  (∃ name session, bench.sessions.find? name = some session ∧ session.poller = poller) ∨
    ∃ name, bench.pollers.find? name = some poller

/-- Where a poller after a command comes from. -/
inductive PollerOrigin : Poller → Prop where
  | kept {poller : Poller} (polls : bench.Polls poller) : PollerOrigin poller
  | polled {poller : Poller} (polls : bench.Polls poller) :
      PollerOrigin (poller.next bench.adapter).value.poller
  | fresh (kind : BindingKind) : PollerOrigin (.fresh kind)

theorem polls_of_sessionIn? {phase : Session.Phase} {name : String} {session : Session}
    (found : bench.sessionIn? phase name = some session) : bench.Polls session.poller :=
  .inl ⟨name, session, (bench.sessionIn?_eq_some name found).1, rfl⟩

variable {bench} {after : Bench}

theorem PollerOrigin.of_same (polls : after.Polls poller)
    (sessions : after.sessions = bench.sessions) (pollers : after.pollers = bench.pollers) :
    bench.PollerOrigin poller := by
  rw [Polls, sessions, pollers] at polls
  exact .kept polls

theorem PollerOrigin.of_put_session (polls : after.Polls poller) {name : String}
    {session : Session} (sessions : after.sessions = bench.sessions.put name session)
    (pollers : after.pollers = bench.pollers) (origin : bench.PollerOrigin session.poller) :
    bench.PollerOrigin poller := by
  rw [Polls, sessions, pollers] at polls
  rcases polls with ⟨other, found, present, rfl⟩ | bare
  · rcases Registry.of_find?_put present with rfl | kept
    · exact origin
    · exact .kept (.inl ⟨other, found, kept, rfl⟩)
  · exact .kept (.inr bare)

theorem PollerOrigin.of_remove_session (polls : after.Polls poller) {name : String}
    (sessions : after.sessions = bench.sessions.remove name)
    (pollers : after.pollers = bench.pollers) : bench.PollerOrigin poller := by
  rw [Polls, sessions, pollers] at polls
  rcases polls with ⟨other, found, present, rfl⟩ | bare
  · exact .kept (.inl ⟨other, found, Registry.of_find?_remove present, rfl⟩)
  · exact .kept (.inr bare)

theorem PollerOrigin.of_put_poller (polls : after.Polls poller) {name : String} {put : Poller}
    (sessions : after.sessions = bench.sessions)
    (pollers : after.pollers = bench.pollers.put name put) (origin : bench.PollerOrigin put) :
    bench.PollerOrigin poller := by
  rw [Polls, sessions, pollers] at polls
  rcases polls with session | ⟨other, present⟩
  · exact .kept (.inl session)
  · rcases Registry.of_find?_put present with rfl | kept
    · exact origin
    · exact .kept (.inr ⟨other, kept⟩)

variable (bench)

theorem origin_queue (command : QueueCommand)
    (polls : (bench.performQueue command).value.2.Polls poller) : bench.PollerOrigin poller := by
  refine .of_same polls ?_ ?_ <;>
  cases command with
  | pop number | clear number | enqueue number sample =>
      cases known : Port.ofNat? number <;> simp [performQueue, known, withAdapter]
  | drain => rfl

theorem origin_registration (command : RegistrationCommand)
    (polls : (bench.performRegistration command).value.2.Polls poller) :
    bench.PollerOrigin poller := by
  refine .of_same polls ?_ ?_ <;>
  cases command with
  | hold name => rw [hold_effect]
  | release name => rw [release_effect]

theorem origin_session (command : SessionCommand)
    (polls : (bench.performSession command).value.2.Polls poller) :
    bench.PollerOrigin poller := by
  cases command with
  | launch name kind =>
      rw [launch_result] at polls
      exact .of_put_session polls rfl rfl (.fresh kind)
  | create name kind =>
      rw [create_result] at polls
      exact .of_put_session polls rfl rfl (.fresh kind)
  | start name =>
      cases found : bench.sessionIn? .idle name with
      | none =>
          rw [start_without_effect bench name found] at polls
          exact .kept polls
      | some session =>
          rw [start_effect bench name found] at polls
          exact .of_put_session polls rfl rfl (.fresh session.kind)
  | stop name =>
      cases found : bench.sessionIn? .capturing name with
      | none =>
          rw [stop_without_effect bench name found] at polls
          exact .kept polls
      | some session =>
          rw [stop_effect bench name found] at polls
          exact .of_put_session polls rfl rfl (.fresh session.kind)
  | discard name =>
      rw [discard_result] at polls
      exact .of_remove_session polls rfl rfl
  | kind name => exact .kept polls
  | next name =>
      cases found : bench.sessionIn? .capturing name with
      | none =>
          rw [next_without_effect bench name found] at polls
          exact .kept polls
      | some session =>
          rw [next_effect bench name found] at polls
          exact .of_put_session polls rfl rfl (.polled (bench.polls_of_sessionIn? found))

theorem origin_poller (command : PollerCommand)
    (polls : (bench.performPoller command).value.2.Polls poller) : bench.PollerOrigin poller := by
  cases command with
  | create name => exact .of_put_poller polls rfl rfl (.fresh .analog)
  | next name =>
      cases found : bench.pollers.find? name with
      | none =>
          simp only [performPoller, found] at polls
          exact .kept polls
      | some poller =>
          simp only [performPoller, found] at polls
          exact .of_put_poller polls rfl rfl (.polled (.inr ⟨name, found⟩))
  | reset name =>
      cases found : bench.pollers.find? name with
      | none =>
          simp only [performPoller, found] at polls
          exact .kept polls
      | some poller =>
          simp only [performPoller, found, Logged.value_bind, Poller.value_reset] at polls
          exact .of_put_poller polls rfl rfl (.fresh poller.kind)

theorem origin_device (command : DeviceCommand)
    (polls : (bench.performDevice command).value.2.Polls poller) : bench.PollerOrigin poller := by
  refine .of_same polls ?_ ?_ <;>
  cases command with
  | buttonOfText name text | stickOfText name text =>
      cases parsed : Params.parse text <;> simp only [performDevice, parsed] <;> rfl
  | _ => rfl

theorem origin_gamepad (command : GamepadCommand)
    (polls : (bench.performGamepad command).value.2.Polls poller) : bench.PollerOrigin poller := by
  refine .of_same polls ?_ ?_ <;>
  cases command with
  | connect | refuse => rfl
  | report reports => cases present : bench.gamepads <;> simp only [performGamepad, present] <;> rfl

theorem origin_perform (command : Command) (polls : (bench.perform command).value.2.Polls poller) :
    bench.PollerOrigin poller := by
  cases command with
  | adapter command => exact .of_same polls (by cases command <;> rfl) (by cases command <;> rfl)
  | queue command => exact bench.origin_queue command polls
  | registration command => exact bench.origin_registration command polls
  | session command => exact bench.origin_session command polls
  | poller command => exact bench.origin_poller command polls
  | device command => exact bench.origin_device command polls
  | gamepad command => exact bench.origin_gamepad command polls

end Bench

end PadCapture
