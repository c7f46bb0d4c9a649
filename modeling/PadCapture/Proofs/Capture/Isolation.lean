import PadCapture.Proofs.Bench.Sessions
import PadCapture.Proofs.Capture.Drain

/-!
# Captures and their past

A session that begins empties the queues and forgets its half binding, so it starts from
nothing.  A view keeps what it gathers from then on: the samples queued since, its own
poller, and the registrations opened since.  The view tells every reply to come, and it
starts alike at all benches.  What a bench went through before therefore never shows in
what its session captures.
-/

namespace PadCapture.Isolation

/-- What can happen around a session that has begun. -/
inductive Step where
  | update (port : Nat) (shown : PortState)
  | push (sample : Sample)
  | poll
  | hold (label : String)
  | release (label : String)

namespace Step

/-- The command of a step, where the session that polls has the given name. -/
def command (own : String) : Step → Command
  | update port shown => .adapter (.update port shown)
  | push sample => .adapter (.push sample)
  | poll => .session (.next own)
  | hold label => .registration (.hold label)
  | release label => .registration (.release label)

/-- The registration that a step opens or drops. -/
def label? : Step → Option String
  | hold label | release label => some label
  | _ => none

/-- The step leaves alone the registrations that the bench has already. -/
def SparesRegistrations (step : Step) (bench : Bench) : Prop :=
  ∀ label ∈ step.label?, bench.registrations.find? label = none

instance instDecidableSparesRegistrations (step : Step) (bench : Bench) :
    Decidable (step.SparesRegistrations bench) :=
  inferInstanceAs (Decidable (∀ label ∈ step.label?, bench.registrations.find? label = none))

end Step

/-- What a capture has gathered since its session began. -/
structure View where
  queues : Port → List Sample
  poller : Poller
  held : List String

namespace View

variable (view : View)

/-- Nothing has happened yet. -/
def begun (kind : BindingKind) : View := ⟨fun _ => [], .fresh kind, []⟩

/-- The sample is queued at the port of the given number, if there is such a port. -/
def gather (number : Nat) (sample? : Option Sample) : View :=
  { view with
    queues := fun port =>
      view.queues port ++ (if number = port.val then sample? else none).toList }

/-- A poll of the queues alone. -/
def polled : Poller.Outcome Adapter :=
  (view.poller.next (Adapter.initial.withQueues view.queues)).value

def hold (label : String) : View :=
  { view with queues := fun _ => [], held := label :: view.held.erase label }

def release (label : String) : View :=
  if label ∈ view.held then
    { view with queues := fun _ => [], held := view.held.erase label }
  else view

/-- The reply to a step, and the view after it. -/
def step : Step → Reply × View
  | .update number shown =>
      (.configuring true, view.gather number (Sample.ofState? number shown))
  | .push sample => (.configuring true, view.gather sample.port (some sample))
  | .poll =>
      (.binding view.polled.binding,
        { view with queues := view.polled.rest.queue, poller := view.polled.poller })
  | .hold label => (.configuring true, view.hold label)
  | .release label => (.configuring true, view.release label)

def replies (view : View) : List Step → List Reply
  | [] => []
  | step :: steps => (view.step step).1 :: (view.step step).2.replies steps

end View

/-- The view is what has happened at the bench since the session under the name began.
The session keeps capture mode open itself, beside the registrations opened since. -/
structure Tells (before : Bench) (own : String) (view : View) (bench : Bench) : Prop where
  queues : ∀ port, bench.adapter.queue port = view.queues port
  session : bench.sessions.find? own = some (.inPhase .capturing view.poller)
  registrations : ∀ label, before.registrations.find? label = none →
    ((bench.registrations.find? label).isSome ↔ label ∈ view.held)
  distinct : view.held.Nodup
  openSessions : view.held.length < bench.adapter.openSessions

/-- The bench replies like the view, which tells what has happened after the step, too. -/
structure Follows (before : Bench) (own : String) (view : View) (bench : Bench) (step : Step) :
    Prop where
  reply : (bench.perform (step.command own)).value.1 = (view.step step).1
  tells : Tells before own (view.step step).2 (bench.perform (step.command own)).value.2

section Steps

variable {before bench : Bench} {own : String} {view : View}

namespace Tells

theorem isConfiguring (tells : Tells before own view bench) :
    bench.adapter.isConfiguring = true := by
  have more := tells.openSessions
  rw [Adapter.isConfiguring_iff]
  omega

/-- With another adapter of the same count the view tells its queues. -/
theorem of_adapter (tells : Tells before own view bench) {adapter : Adapter}
    {queues : Port → List Sample} (shown : ∀ port, adapter.queue port = queues port)
    (openSessions : adapter.openSessions = bench.adapter.openSessions) :
    Tells before own { view with queues } { bench with adapter } where
  queues := shown
  session := tells.session
  registrations := tells.registrations
  distinct := tells.distinct
  openSessions := openSessions ▸ tells.openSessions

theorem gather (tells : Tells before own view bench) {adapter : Adapter} {number : Nat}
    {sample? : Option Sample}
    (queued : ∀ port, adapter.queue port = bench.adapter.queue port ++
      (if bench.adapter.isConfiguring ∧ number = port.val then sample? else none).toList)
    (openSessions : adapter.openSessions = bench.adapter.openSessions) :
    Tells before own (view.gather number sample?) { bench with adapter } := by
  apply tells.of_adapter _ openSessions
  intro port
  rw [queued, tells.queues, tells.isConfiguring]
  simp

theorem update (tells : Tells before own view bench) (number : Nat) (shown : PortState) :
    Follows before own view bench (.update number shown) := by
  have next := tells.gather (fun port => bench.adapter.queue_update port number shown)
    (bench.adapter.openSessions_update number shown)
  exact ⟨congrArg Reply.configuring next.isConfiguring, next⟩

theorem push (tells : Tells before own view bench) (sample : Sample) :
    Follows before own view bench (.push sample) := by
  have next := tells.gather (fun port => bench.adapter.queue_push port sample)
    (bench.adapter.openSessions_push sample)
  exact ⟨congrArg Reply.configuring next.isConfiguring, next⟩

theorem sessionIn? (tells : Tells before own view bench) :
    bench.sessionIn? .capturing own = some (.inPhase .capturing view.poller) := by
  simp [Bench.sessionIn?, tells.session]

theorem poll (tells : Tells before own view bench) :
    Follows before own view bench .poll := by
  have queues (port : Port) : bench.adapter.queue port =
      (Adapter.initial.withQueues view.queues).queue port := by
    rw [tells.queues, Adapter.queue_withQueues]
  obtain ⟨poller, binding, rest⟩ := view.poller.drainPorts_congr queues Port.all
  have effect := bench.next_effect own tells.sessionIn?
  constructor
  · change (bench.performSession (.next own)).value.1 = _
    rw [effect]
    exact congrArg Reply.binding binding
  · change Tells before own _ (bench.performSession (.next own)).value.2
    rw [effect]
    have next := tells.of_adapter rest (Poller.openSessions_next view.poller bench.adapter)
    refine { next with session := ?_ }
    rw [Registry.find?_put_self]
    exact congrArg some (congrArg (Session.inPhase .capturing) poller)

theorem hold (tells : Tells before own view bench) {label : String}
    (spared : before.registrations.find? label = none) :
    Follows before own view bench (.hold label) := by
  have held := tells.registrations label spared
  have next : Tells before own (view.hold label)
      (bench.performRegistration (.hold label)).value.2 := by
    rw [Bench.hold_effect]
    refine ⟨fun port => ?_, tells.session, fun other sparedOther => ?_, ?_, ?_⟩
    · dsimp only
      split <;> simp [View.hold]
    · by_cases same : other = label
      · subst same
        simp [View.hold]
      · simp [View.hold, Registry.find?_put_of_ne _ _ same, List.mem_erase_of_ne same, same,
          tells.registrations other sparedOther]
    · exact List.nodup_cons.mpr ⟨tells.distinct.not_mem_erase, tells.distinct.erase label⟩
    · have fewer := tells.openSessions
      by_cases old : label ∈ view.held
      · have positive := List.length_pos_of_mem old
        simp only [held.mpr old, if_true, Adapter.openSessions_endCapture,
          Adapter.openSessions_beginCapture, View.hold, List.length_cons,
          List.length_erase_of_mem old]
        omega
      · rw [if_neg (mt held.mp old), Adapter.openSessions_beginCapture, View.hold,
          List.erase_of_not_mem old, List.length_cons]
        omega
  exact ⟨congrArg Reply.configuring next.isConfiguring, next⟩

theorem release (tells : Tells before own view bench) {label : String}
    (spared : before.registrations.find? label = none) :
    Follows before own view bench (.release label) := by
  have held := tells.registrations label spared
  have registrations (other : String) (sparedOther : before.registrations.find? other = none) :
      ((bench.registrations.remove label).find? other).isSome ↔
        other ∈ view.held.erase label := by
    rw [tells.distinct.mem_erase_iff]
    by_cases same : other = label
    · subst same
      simp [Registry.find?_remove_self]
    · simp [Registry.find?_remove_of_ne _ _ same, same, tells.registrations other sparedOther]
  have next : Tells before own (view.release label)
      (bench.performRegistration (.release label)).value.2 := by
    rw [Bench.release_effect, View.release]
    by_cases old : label ∈ view.held
    · rw [if_pos old, if_pos (held.mpr old)]
      refine ⟨fun port => bench.adapter.queue_endCapture port, tells.session, registrations,
        tells.distinct.erase label, ?_⟩
      have fewer := tells.openSessions
      have positive := List.length_pos_of_mem old
      rw [List.length_erase_of_mem old, Adapter.openSessions_endCapture]
      omega
    · rw [if_neg old, if_neg (mt held.mp old)]
      rw [List.erase_of_not_mem old] at registrations
      exact ⟨tells.queues, tells.session, registrations, tells.distinct, tells.openSessions⟩
  exact ⟨congrArg Reply.configuring next.isConfiguring, next⟩

theorem follows (tells : Tells before own view bench) (step : Step)
    (spares : step.SparesRegistrations before) : Follows before own view bench step := by
  cases step with
  | update number shown => exact tells.update number shown
  | push sample => exact tells.push sample
  | poll => exact tells.poll
  | hold label => exact tells.hold (spares label rfl)
  | release label => exact tells.release (spares label rfl)

theorem begun {session : Session} (idle : bench.sessionIn? .idle own = some session) :
    Tells bench own (View.begun session.kind) (bench.performSession (.start own)).value.2 := by
  rw [Bench.start_effect bench own idle]
  refine ⟨fun port => bench.adapter.queue_beginCapture port, ?_, fun label unused => ?_,
    List.nodup_nil, ?_⟩
  · exact Registry.find?_put_self _ _ _
  · simp [View.begun, unused]
  · rw [Adapter.openSessions_beginCapture]
    exact Nat.succ_pos _

/-- A whole run replies like the view. -/
theorem replies (tells : Tells before own view bench) (steps : List Step)
    (spare : ∀ step ∈ steps, step.SparesRegistrations before) :
    (bench.run (steps.map (Step.command own))).value.1 = view.replies steps := by
  induction steps generalizing view bench with
  | nil => rfl
  | cons step steps ih =>
      have follows := tells.follows step (spare step List.mem_cons_self)
      rw [List.map_cons, Bench.value_run_cons, View.replies, follows.reply,
        ih follows.tells fun other member => spare other (List.mem_cons_of_mem _ member)]

end Tells

/-- From the begin of a session on, its bench replies like the view that has just begun. -/
theorem replies_start {session : Session} (idle : bench.sessionIn? .idle own = some session)
    (steps : List Step) (spare : ∀ step ∈ steps, step.SparesRegistrations bench) :
    (bench.run (.session (.start own) :: steps.map (Step.command own))).value.1 =
      .configuring true :: (View.begun session.kind).replies steps := by
  have reply : (bench.performSession (.start own)).value.1 = .configuring true := by
    simp [Bench.performSession, idle, Bench.withAdapter, Session.value_start,
      Adapter.isConfiguring_iff]
  rw [Bench.value_run_cons]
  exact List.cons_eq_cons.mpr ⟨reply, (Tells.begun idle).replies steps spare⟩

end Steps

/-- Two idle sessions of one kind, each at its own bench, reply alike from their begin on,
whatever the benches and the sessions went through before. -/
theorem replies_independent_of_past (first second : Bench) (ownFirst ownSecond : String)
    (sessionFirst sessionSecond : Session)
    (idleFirst : first.sessionIn? .idle ownFirst = some sessionFirst)
    (idleSecond : second.sessionIn? .idle ownSecond = some sessionSecond)
    (sameKind : sessionFirst.kind = sessionSecond.kind) (steps : List Step)
    (spareFirst : ∀ step ∈ steps, step.SparesRegistrations first)
    (spareSecond : ∀ step ∈ steps, step.SparesRegistrations second) :
    (first.run (.session (.start ownFirst) :: steps.map (Step.command ownFirst))).value.1 =
      (second.run (.session (.start ownSecond) :: steps.map (Step.command ownSecond))).value.1 := by
  rw [replies_start idleFirst steps spareFirst, replies_start idleSecond steps spareSecond,
    sameKind]

/-- A session that held a half binding when it ended, at a bench that keeps capture mode
open, captures like the session of a new bench. -/
theorem replies_independent_of_half_binding :
    let first := ((Bench.create .fixed (.zero false)).value.run
      [.registration (.hold "old"), .session (.launch "a" .analog),
        .adapter (.push ⟨0, .empty, some .stickX, 200⟩), .session (.next "a"),
        .session (.stop "a")]).value.2
    let second := ((Bench.create .fixed (.zero false)).value.run
      [.session (.create "b" .analog)]).value.2
    let steps := [Step.push ⟨0, .empty, some .stickY, 200⟩, .poll, .hold "new",
      .push ⟨0, .empty, some .stickX, 200⟩, .poll, .release "new"]
    (first.run (.session (.start "a") :: steps.map (Step.command "a"))).value.1 =
      (second.run (.session (.start "b") :: steps.map (Step.command "b"))).value.1 := by
  intro first second steps
  apply replies_independent_of_past first second "a" "b" (.inPhase .idle (.analog none))
    (.inPhase .idle (.analog none))
  · decide +kernel
  · decide +kernel
  · rfl
  · decide +kernel
  · decide +kernel

end PadCapture.Isolation
