import PadCapture.Proofs.Capture.History

/-!
# Provenance of captured bindings

The invariant of a history is about all sessions at once: every waiting sample was
accepted after any session began, the half bindings come from different samples, and
no sample of a captured binding waits or belongs to a half binding.  Every step keeps
it, and so does every run.  A captured binding is therefore genuine, and no accepted
sample is in two of them.
-/

namespace PadCapture.Provenance

variable {accepted grown : Port → List Sample} {begun : Port → Nat} {history : History}

section Growing

variable (grows : ∀ port, accepted port <+: grown port)

include grows

theorem sampleAt?_of_grows {mark : Mark} {sample : Sample}
    (sampleAt : sampleAt? accepted mark = some sample) : sampleAt? grown mark = some sample := by
  obtain ⟨later, split⟩ := grows mark.port
  obtain ⟨bound, _⟩ := List.getElem?_eq_some_iff.mp sampleAt
  rw [sampleAt?, ← split, List.getElem?_append_left bound]
  exact sampleAt

theorem Holds.of_grows {tracer : Tracer} (holds : Holds accepted begun tracer) :
    Holds grown begun tracer := by
  cases holds with
  | button => exact .button
  | free => exact .free
  | half mark sample axis sampleAt axisAt since =>
      exact .half mark sample axis (sampleAt?_of_grows grows sampleAt) axisAt since

theorem Genuine.of_grows {kind : BindingKind} {binding : Params} {origin : Origin}
    (genuine : Genuine accepted begun kind binding origin) :
    Genuine grown begun kind binding origin := by
  cases genuine with
  | button mark sample _ sampleAt since made port =>
      exact .button mark sample _ (sampleAt?_of_grows grows sampleAt) since made port
  | stick first second firstSample secondSample axisX axisY _ samePort order firstAt secondAt
      since axisXAt axisYAt different entries =>
      exact .stick first second firstSample secondSample axisX axisY _ samePort order
        (sampleAt?_of_grows grows firstAt) (sampleAt?_of_grows grows secondAt)
        since axisXAt axisYAt different entries

end Growing

theorem Holds.fresh (kind : BindingKind) : Holds accepted begun ⟨.fresh kind, none⟩ := by
  cases kind with
  | button => exact .button
  | analog => exact .free

/-- The invariant of a history. -/
structure Sound (history : History) : Prop where
  suffix : ∀ port, history.bench.adapter.queue port <:+ history.accepted port
  begun_le : ∀ name port, (history.trails name).begun port ≤ history.taken port
  holds : ∀ name session, history.bench.sessions.find? name = some session →
    Holds history.accepted (history.trails name).begun (history.tracer name session)
  source_lt : ∀ name mark, (history.trails name).source = some mark →
    mark.index < history.taken mark.port
  source_apart : ∀ first second mark, (history.trails first).source = some mark →
    (history.trails second).source = some mark → first = second
  source_unused : ∀ name mark, (history.trails name).source = some mark → mark ∉ history.used
  genuine : ∀ capture ∈ history.captures, Genuine history.accepted capture.begun capture.kind
    capture.binding capture.origin
  used_lt : ∀ mark ∈ history.used, mark.index < history.taken mark.port
  used_nodup : history.used.Nodup

namespace Sound

theorem opening (thresholdMode : ThresholdMode) (defaultDeadzone : Single) :
    Sound (.opening thresholdMode defaultDeadzone) where
  suffix := fun port => by
    change Adapter.initial.queue port <:+ []
    rw [Adapter.queue_initial]
  begun_le := fun name port => Nat.zero_le _
  holds := fun name session found => by cases found
  source_lt := fun name mark sourceAt => by cases sourceAt
  source_apart := fun first second mark sourceAt => by cases sourceAt
  source_unused := fun name mark sourceAt => by cases sourceAt
  genuine := fun capture member => by cases member
  used_lt := fun mark member => by cases member
  used_nodup := List.nodup_nil

/-- A step that captures nothing keeps the invariant, if no sample returns to a queue and
no session gets a new half binding. -/
theorem of_no_capture (sound : Sound history) {next : History}
    (suffix : ∀ port, next.bench.adapter.queue port <:+ next.accepted port)
    (grows : ∀ port, history.accepted port <+: next.accepted port)
    (taken_le : ∀ port, history.taken port ≤ next.taken port)
    (captures : next.captures = history.captures)
    (begun_le : ∀ name port, (next.trails name).begun port ≤ next.taken port)
    (holds : ∀ name session, next.bench.sessions.find? name = some session →
      Holds next.accepted (next.trails name).begun (next.tracer name session))
    (source : ∀ name mark, (next.trails name).source = some mark →
      (history.trails name).source = some mark) :
    Sound next where
  suffix := suffix
  begun_le := begun_le
  holds := holds
  source_lt := fun name mark sourceAt =>
    (sound.source_lt name mark (source name mark sourceAt)).trans_le (taken_le mark.port)
  source_apart := fun first second mark firstAt secondAt =>
    sound.source_apart first second mark (source _ _ firstAt) (source _ _ secondAt)
  source_unused := fun name mark sourceAt => by
    rw [History.used, captures]
    exact sound.source_unused name mark (source name mark sourceAt)
  genuine := fun capture member => by
    rw [captures] at member
    exact (sound.genuine capture member).of_grows grows
  used_lt := fun mark member => by
    rw [History.used, captures] at member
    exact (sound.used_lt mark member).trans_le (taken_le mark.port)
  used_nodup := by
    rw [History.used, captures]
    exact sound.used_nodup

/-- Accepted samples that join the queues keep the invariant. -/
theorem accept (sound : Sound history) {adapter : Adapter} {sample? : Port → Option Sample}
    (joins : ∀ port,
      adapter.queue port = history.bench.adapter.queue port ++ (sample? port).toList) :
    Sound { history.accept sample? with bench := { history.bench with adapter } } := by
  have taken_eq : ∀ port, taken (history.accept sample?).accepted adapter port =
      history.taken port := by
    intro port
    simp only [taken, History.taken, History.accept, joins, List.length_append]
    omega
  have grows : ∀ port, history.accepted port <+: (history.accept sample?).accepted port :=
    fun port => List.prefix_append _ _
  apply sound.of_no_capture
  case suffix =>
      intro port
      obtain ⟨before, split⟩ := sound.suffix port
      refine ⟨before, ?_⟩
      change before ++ adapter.queue port = history.accepted port ++ (sample? port).toList
      rw [joins, ← List.append_assoc, split]
  case grows => exact grows
  case taken_le => exact fun port => (taken_eq port).ge
  case captures => rfl
  case begun_le => exact fun name port => (sound.begun_le name port).trans (taken_eq port).ge
  case holds => exact fun name session found => (sound.holds name session found).of_grows grows
  case source => exact fun name mark sourceAt => sourceAt

theorem taken_le_of_queues {adapter : Adapter}
    (queues : (∀ port, adapter.queue port = history.bench.adapter.queue port) ∨
      ∀ port, adapter.queue port = []) (port : Port) :
    history.taken port ≤ taken history.accepted adapter port := by
  rcases queues with kept | emptied
  · rw [History.taken, taken, taken, kept]
  · rw [History.taken, taken, taken, emptied]
    exact Nat.sub_le_sub_left (Nat.zero_le _) _

/-- The invariant is kept when the queues are left alone or emptied, and the session
under one name becomes a session without a half binding or none at all. -/
theorem settle (sound : Sound history) {adapter : Adapter} {sessions : Registry Session}
    {name : String} {begun : Port → Nat}
    (queues : (∀ port, adapter.queue port = history.bench.adapter.queue port) ∨
      ∀ port, adapter.queue port = [])
    (begun_le : ∀ port, begun port ≤ taken history.accepted adapter port)
    (others : ∀ other, other ≠ name →
      sessions.find? other = history.bench.sessions.find? other)
    (own : ∀ session, sessions.find? name = some session → ∃ kind, session.poller = .fresh kind) :
    Sound { history.withTrail name ⟨begun, none⟩ with
      bench := { history.bench with adapter, sessions } } := by
  have taken_le := taken_le_of_queues queues
  apply sound.of_no_capture
  case suffix =>
      intro port
      rcases queues with kept | emptied
      · change adapter.queue port <:+ _
        rw [kept]
        exact sound.suffix port
      · change adapter.queue port <:+ _
        rw [emptied]
        exact List.nil_suffix
  case grows => exact fun port => List.prefix_refl _
  case taken_le => exact taken_le
  case captures => rfl
  case begun_le =>
      intro other port
      change (Function.update history.trails name ⟨begun, none⟩ other).begun port ≤
        taken history.accepted adapter port
      by_cases same : other = name
      · rw [same, Function.update_self]
        exact begun_le port
      · rw [Function.update_of_ne same]
        exact (sound.begun_le other port).trans (taken_le port)
  case holds =>
      intro other session found
      by_cases same : other = name
      · subst same
        obtain ⟨kind, fresh⟩ := own session found
        simp only [History.tracer, History.withTrail, Function.update_self, fresh]
        exact .fresh kind
      · have holds := sound.holds other session ((others other same).symm.trans found)
        simpa [History.tracer, History.withTrail, same] using holds
  case source =>
      intro other mark sourceAt
      by_cases same : other = name
      · subst same
        simp [History.withTrail] at sourceAt
      · simpa [History.withTrail, same] using sourceAt

/-- A mark that a poll by the session under `name` must not use: it was captured before,
or the half binding of another session came from it. -/
def Reserved (history : History) (name : String) (mark : Mark) : Prop :=
  mark ∈ history.used ∨ ∃ other, other ≠ name ∧ (history.trails other).source = some mark

/-- A session of a sound history is ready to poll. -/
theorem polling (sound : Sound history) {name : String} {session : Session}
    (found : history.bench.sessions.find? name = some session) :
    Polling history.accepted (history.trails name).begun (Reserved history name)
      history.bench.adapter (history.tracer name session) where
  suffix := sound.suffix
  begun_le := sound.begun_le name
  used_lt := by
    intro mark reserved
    rcases reserved with captured | ⟨other, -, sourceAt⟩
    · exact sound.used_lt mark captured
    · exact sound.source_lt other mark sourceAt
  holds := sound.holds name session found
  source_lt := sound.source_lt name
  source_unused := by
    intro mark sourceAt reserved
    rcases reserved with captured | ⟨other, different, otherAt⟩
    · exact sound.source_unused name mark sourceAt captured
    · exact different (sound.source_apart other name mark otherAt sourceAt)

/-- The bench after a poll, in terms of the traced poll. -/
def polledBench (history : History) (name : String) (session : Session) : Bench :=
  { history.bench with
    adapter := (history.traced name session).rest
    sessions := history.bench.sessions.put name
      (session.withPoller (history.traced name session).tracer.poller) }

theorem taken_le_polled (history : History) (name : String) (session : Session) (port : Port) :
    history.taken port ≤ taken history.accepted (history.traced name session).rest port := by
  have shorter := Poller.queue_next_suffix session.poller history.bench.adapter port
  rw [← traced_rest history name session] at shorter
  exact Nat.sub_le_sub_left shorter.length_le _

theorem used_poll (history : History) (name : String) (session : Session) :
    (history.poll name session).used =
      history.used ++ madeMarks (history.traced name session).made := by
  cases made : (history.traced name session).made <;>
    simp [History.used, History.poll, made, madeMarks]

theorem source_poll (history : History) (name : String) (session : Session) {other : String}
    {mark : Mark} (sourceAt : ((history.poll name session).trails other).source = some mark) :
    (other = name ∧ (history.traced name session).tracer.source = some mark) ∨
      (other ≠ name ∧ (history.trails other).source = some mark) := by
  change (Function.update history.trails name ⟨(history.trails name).begun,
    (history.traced name session).tracer.source⟩ other).source = some mark at sourceAt
  by_cases same : other = name
  · rw [same, Function.update_self] at sourceAt
    exact .inl ⟨same, sourceAt⟩
  · rw [Function.update_of_ne same] at sourceAt
    exact .inr ⟨same, sourceAt⟩

theorem poll (sound : Sound history) {name : String} {session : Session}
    (found : history.bench.sessions.find? name = some session) :
    Sound { history.poll name session with bench := polledBench history name session } := by
  have upheld := (sound.polling found).next
  change Upheld _ _ _ (history.traced name session).rest session.kind
    (history.traced name session).tracer (history.traced name session).made at upheld
  have taken_le := taken_le_polled history name session
  have mem_used : ∀ mark, mark ∈ (history.poll name session).used ↔
      mark ∈ history.used ∨ mark ∈ madeMarks (history.traced name session).made := by
    intro mark
    rw [used_poll, List.mem_append]
  constructor
  case suffix => exact upheld.polling.suffix
  case begun_le =>
      intro other port
      refine le_trans ?_ ((sound.begun_le other port).trans (taken_le port))
      by_cases same : other = name
      · simp [History.poll, same]
      · simp [History.poll, same]
  case holds =>
      intro other polled polledAt
      by_cases same : other = name
      · subst same
        simp only [polledBench, Registry.find?_put_self, Option.some.injEq] at polledAt
        subst polledAt
        simpa [History.tracer, History.poll] using upheld.polling.holds
      · simp only [polledBench, Registry.find?_put_of_ne _ _ same] at polledAt
        simpa [History.tracer, History.poll, same] using sound.holds other polled polledAt
  case source_lt =>
      intro other mark sourceAt
      rcases source_poll history name session sourceAt with ⟨-, own⟩ | ⟨-, kept⟩
      · exact upheld.polling.source_lt mark own
      · exact (sound.source_lt other mark kept).trans_le (taken_le mark.port)
  case source_apart =>
      intro first second mark firstAt secondAt
      rcases source_poll history name session firstAt with ⟨rfl, firstOwn⟩ | ⟨apart, firstKept⟩
      · rcases source_poll history first session secondAt with ⟨rfl, -⟩ | ⟨apart, secondKept⟩
        · rfl
        · cases upheld.polling.source_unused mark firstOwn (.inr ⟨second, apart, secondKept⟩)
      · rcases source_poll history name session secondAt with ⟨rfl, secondOwn⟩ | ⟨-, secondKept⟩
        · cases upheld.polling.source_unused mark secondOwn (.inr ⟨first, apart, firstKept⟩)
        · exact sound.source_apart first second mark firstKept secondKept
  case source_unused =>
      intro other mark sourceAt captured
      rcases source_poll history name session sourceAt with ⟨-, own⟩ | ⟨apart, kept⟩
      · rcases (mem_used mark).mp captured with before | now
        · exact upheld.polling.source_unused mark own (.inl before)
        · exact upheld.source_notMem_madeMarks own now
      · rcases (mem_used mark).mp captured with before | now
        · exact sound.source_unused other mark kept before
        · exact upheld.madeMarks_unused now (.inr ⟨other, apart, kept⟩)
  case genuine =>
      intro capture member
      rcases List.mem_append.mp member with before | now
      · exact sound.genuine capture before
      · rw [Option.mem_toList, Option.map_eq_some_iff] at now
        obtain ⟨⟨binding, origin⟩, made, rfl⟩ := now
        exact (upheld.made binding origin made).genuine
  case used_lt =>
      intro mark captured
      rcases (mem_used mark).mp captured with before | now
      · exact (sound.used_lt mark before).trans_le (taken_le mark.port)
      · exact upheld.madeMarks_lt now
  case used_nodup =>
      change (history.poll name session).used.Nodup
      rw [used_poll]
      apply sound.used_nodup.append upheld.madeMarks_nodup
      intro mark before now
      exact upheld.madeMarks_unused now (.inl before)

/-- The same for a session that is put under a name afresh. -/
theorem settle_put (sound : Sound history) {adapter : Adapter} {name : String}
    {begun : Port → Nat} (phase : Session.Phase) (kind : BindingKind)
    (queues : (∀ port, adapter.queue port = history.bench.adapter.queue port) ∨
      ∀ port, adapter.queue port = [])
    (begun_le : ∀ port, begun port ≤ taken history.accepted adapter port) :
    Sound { history.withTrail name ⟨begun, none⟩ with
      bench := { history.bench with
        adapter
        sessions := history.bench.sessions.put name (.inPhase phase (.fresh kind)) } } := by
  apply sound.settle queues begun_le
  case others => exact fun other different => Registry.find?_put_of_ne _ _ different _
  case own =>
      intro session found
      rw [Registry.find?_put_self] at found
      cases found
      exact ⟨kind, rfl⟩

/-- A session that begins finds empty queues and has no half binding. -/
theorem begin (sound : Sound history) {adapter : Adapter} (name : String) (kind : BindingKind)
    (emptied : ∀ port, adapter.queue port = []) :
    Sound { history.begin name with
      bench := { history.bench with
        adapter
        sessions := history.bench.sessions.put name (.inPhase .capturing (.fresh kind)) } } := by
  apply sound.settle_put .capturing kind (.inr emptied)
  intro port
  simp [History.counts, taken, emptied]

theorem begun_le_taken (sound : Sound history) {adapter : Adapter} (name : String)
    (queues : (∀ port, adapter.queue port = history.bench.adapter.queue port) ∨
      ∀ port, adapter.queue port = []) (port : Port) :
    (history.trails name).begun port ≤ taken history.accepted adapter port :=
  (sound.begun_le name port).trans (taken_le_of_queues queues port)

theorem sessionStep (sound : Sound history) (command : SessionCommand) :
    Sound (history.step (.session command)) := by
  change Sound { history.recordSession command with
    bench := (history.bench.performSession command).value.2 }
  cases command with
  | launch name kind =>
      obtain ⟨adapter, effect, emptied⟩ := history.bench.launch_effect name kind
      rw [effect]
      exact sound.begin name kind emptied
  | create name kind =>
      obtain ⟨adapter, effect, queues⟩ := history.bench.create_effect name kind
      rw [effect]
      exact sound.settle_put .idle kind queues (sound.begun_le_taken name queues)
  | start name =>
      cases found : history.bench.sessionIn? .idle name with
      | none =>
          simp only [History.recordSession, found, Bench.start_without_effect _ _ found]
          exact sound
      | some session =>
          simp only [History.recordSession, found, Bench.start_effect _ _ found]
          exact sound.begin name session.kind (Adapter.queue_beginCapture _)
  | stop name =>
      cases found : history.bench.sessionIn? .capturing name with
      | none =>
          simp only [History.recordSession, found, Bench.stop_without_effect _ _ found]
          exact sound
      | some session =>
          simp only [History.recordSession, found, Bench.stop_effect _ _ found]
          have emptied := Adapter.queue_endCapture history.bench.adapter
          exact sound.settle_put .idle session.kind (.inr emptied)
            (sound.begun_le_taken name (.inr emptied))
  | discard name =>
      obtain ⟨adapter, effect, queues⟩ := history.bench.discard_effect name
      rw [effect]
      apply sound.settle queues (sound.begun_le_taken name queues)
      case others => exact fun other different => Registry.find?_remove_of_ne _ _ different
      case own =>
          intro session found
          rw [Registry.find?_remove_self] at found
          cases found
  | kind name => exact sound
  | next name =>
      cases found : history.bench.sessionIn? .capturing name with
      | none =>
          simp only [History.recordSession, found, Bench.next_without_effect _ _ found]
          exact sound
      | some session =>
          have present := (Bench.sessionIn?_eq_some _ _ found).1
          simp only [History.recordSession, found, Bench.next_effect _ _ found,
            ← traced_rest history name session, ← traced_poller history name session]
          exact sound.poll present

/-- Every step keeps the invariant. -/
theorem step (sound : Sound history) (step : Step) : Sound (history.step step) := by
  cases step with
  | update number shown =>
      have joins := fun port => history.bench.adapter.queue_update port number shown
      have accepted := sound.accept joins
      simpa [History.step, History.record, Step.command, Bench.perform, Bench.performAdapter,
        Bench.withAdapter] using accepted
  | push sample =>
      have joins := fun port => history.bench.adapter.queue_push port sample
      have accepted := sound.accept joins
      simpa [History.step, History.record, Step.command, Bench.perform, Bench.performAdapter,
        Bench.withAdapter] using accepted
  | session command => exact sound.sessionStep command

theorem run (sound : Sound history) (steps : List Step) : Sound (history.run steps) := by
  induction steps generalizing history with
  | nil => exact sound
  | cons step steps ih => exact ih (sound.step step)

end Sound

/-- Whatever sessions do, and in whatever order: the bindings that the bench replies with
are those of the captures, each was made only from samples accepted since its own session
began, and no accepted sample is in two of them. -/
theorem captures_genuine (thresholdMode : ThresholdMode) (defaultDeadzone : Single)
    (steps : List Step) :
    let history := (History.opening thresholdMode defaultDeadzone).run steps
    let outcome := ((Bench.create thresholdMode defaultDeadzone).value.run
      (steps.map Step.command)).value
    history.bench = outcome.2 ∧
      history.captures.map Capture.binding = outcome.1.filterMap captured? ∧
      (∀ port, history.bench.adapter.queue port <:+ history.accepted port) ∧
      (∀ capture ∈ history.captures, Genuine history.accepted capture.begun capture.kind
        capture.binding capture.origin) ∧
      (history.captures.flatMap fun capture => capture.origin.marks).Nodup := by
  intro history outcome
  have sound := (Sound.opening thresholdMode defaultDeadzone).run steps
  refine ⟨bench_run _ steps, ?_, sound.suffix, sound.genuine, sound.used_nodup⟩
  rw [captures_run]
  rfl

end PadCapture.Provenance
