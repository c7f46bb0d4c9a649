import PadCapture.Proofs.Bench.Sessions
import PadCapture.Proofs.Capture.Sources
import Mathlib.Data.List.Nodup
import Mathlib.Logic.Function.Basic

/-!
# Histories of captures

A history follows one adapter while sessions begin, poll, end and are given up in any
order, between published states and pushed samples.  Beside the bench it remembers all
accepted samples, how many of them each session found when it began, and the samples
that every captured binding was made from.  What it remembers never changes what the
bench does: its bench and its bindings are those of the bench alone.
-/

namespace PadCapture.Provenance

/-- What can happen between captures and in them. -/
inductive Step where
  | update (port : Nat) (shown : PortState)
  | push (sample : Sample)
  | session (command : SessionCommand)

def Step.command : Step → Command
  | update port shown => .adapter (.update port shown)
  | push sample => .adapter (.push sample)
  | session command => .session command

/-- What is remembered about the session under a name: how many samples each port had
accepted when it began, and where its half binding came from. -/
structure Trail where
  begun : Port → Nat
  source : Option Mark

/-- A binding that a session returned. -/
structure Capture where
  session : String
  kind : BindingKind
  begun : Port → Nat
  binding : Params
  origin : Origin

structure History where
  bench : Bench
  accepted : Port → List Sample
  trails : String → Trail
  captures : List Capture

namespace History

variable (history : History)

/-- The number of samples accepted so far. -/
def counts (port : Port) : Nat := (history.accepted port).length

def taken (port : Port) : Nat := Provenance.taken history.accepted history.bench.adapter port

/-- The samples that captured bindings were made from. -/
def used : List Mark := history.captures.flatMap fun capture => capture.origin.marks

def withTrail (name : String) (trail : Trail) : History :=
  { history with trails := Function.update history.trails name trail }

/-- The session under a name begins now. -/
def begin (name : String) : History := history.withTrail name ⟨history.counts, none⟩

/-- The half binding of the session under a name is lost. -/
def forget (name : String) : History :=
  history.withTrail name ⟨(history.trails name).begun, none⟩

def tracer (name : String) (session : Session) : Tracer :=
  ⟨session.poller, (history.trails name).source⟩

def traced (name : String) (session : Session) : Traced Adapter :=
  (history.tracer name session).next history.counts history.bench.adapter

/-- The session under a name polls. -/
def poll (name : String) (session : Session) : History :=
  { history with
    trails := Function.update history.trails name
      ⟨(history.trails name).begun, (history.traced name session).tracer.source⟩
    captures := history.captures ++ ((history.traced name session).made.map fun made =>
      ⟨name, session.kind, (history.trails name).begun, made.1, made.2⟩).toList }

/-- What is remembered of a session command. -/
def recordSession : SessionCommand → History
  | .launch name _ => history.begin name
  | .start name =>
      match history.bench.sessionIn? .idle name with
      | some _ => history.begin name
      | none => history
  | .stop name =>
      match history.bench.sessionIn? .capturing name with
      | some _ => history.forget name
      | none => history
  | .next name =>
      match history.bench.sessionIn? .capturing name with
      | some session => history.poll name session
      | none => history
  | .create name _ => history.forget name
  | .discard name => history.forget name
  | .kind _ => history

def accept (sample? : Port → Option Sample) : History :=
  { history with accepted := fun port => history.accepted port ++ (sample? port).toList }

def record : Step → History
  | .update number shown =>
      history.accept fun port => history.bench.adapter.acceptedState? port number shown
  | .push sample => history.accept fun port => history.bench.adapter.acceptedSample? port sample
  | .session command => history.recordSession command

/-- The bench carries out the command of the step; the rest is remembered. -/
def step (step : Step) : History :=
  { history.record step with bench := (history.bench.perform step.command).value.2 }

def run : List Step → History := List.foldl step history

/-- Nothing has happened yet at a new bench. -/
def opening (thresholdMode : ThresholdMode) (defaultDeadzone : Single) : History where
  bench := (Bench.create thresholdMode defaultDeadzone).value
  accepted := fun _ => []
  trails := fun _ => ⟨fun _ => 0, none⟩
  captures := []

theorem run_cons (step : Step) (steps : List Step) :
    history.run (step :: steps) = (history.step step).run steps := rfl

end History

/-- The binding that a reply carries. -/
def captured? : Reply → Option Params
  | .binding binding => binding
  | _ => none

section Erasure

variable (history : History)

theorem captured?_performAdapter_update (bench : Bench) (number : Nat) (shown : PortState) :
    captured? (bench.perform (.adapter (.update number shown))).value.1 = none := by
  simp [Bench.perform, Bench.performAdapter, Bench.withAdapter, captured?]

theorem captured?_performAdapter_push (bench : Bench) (sample : Sample) :
    captured? (bench.perform (.adapter (.push sample))).value.1 = none := by
  simp [Bench.perform, Bench.performAdapter, Bench.withAdapter, captured?]

/-- The traced poll finds the binding that the poll returns. -/
theorem traced_made (name : String) (session : Session) :
    (history.traced name session).made.map Prod.fst =
      (session.poller.next history.bench.adapter).value.binding :=
  congrArg Poller.Outcome.binding
    ((history.tracer name session).next_outcome history.counts history.bench.adapter)

theorem traced_poller (name : String) (session : Session) :
    (history.traced name session).tracer.poller =
      (session.poller.next history.bench.adapter).value.poller :=
  congrArg Poller.Outcome.poller
    ((history.tracer name session).next_outcome history.counts history.bench.adapter)

theorem traced_rest (name : String) (session : Session) :
    (history.traced name session).rest =
      (session.poller.next history.bench.adapter).value.rest :=
  congrArg Poller.Outcome.rest
    ((history.tracer name session).next_outcome history.counts history.bench.adapter)

theorem captures_poll (name : String) (session : Session) :
    (history.poll name session).captures.map Capture.binding =
      history.captures.map Capture.binding ++
        (session.poller.next history.bench.adapter).value.binding.toList := by
  rw [← traced_made]
  cases made : (history.traced name session).made <;> simp [History.poll, made]

/-- Only a poll replies with a binding, and its binding is remembered. -/
theorem captures_step (step : Step) :
    (history.step step).captures.map Capture.binding =
      history.captures.map Capture.binding ++
        (captured? (history.bench.perform step.command).value.1).toList := by
  cases step with
  | update number shown =>
      rw [Step.command, captured?_performAdapter_update]
      simp [History.step, History.record, History.accept]
  | push sample =>
      rw [Step.command, captured?_performAdapter_push]
      simp [History.step, History.record, History.accept]
  | session command =>
      change (history.recordSession command).captures.map Capture.binding = _ ++
        (captured? (history.bench.performSession command).value.1).toList
      cases command with
      | next name =>
          cases found : history.bench.sessionIn? .capturing name with
          | none => simp [History.recordSession, found, Bench.next_without_effect, captured?]
          | some session =>
              rw [Bench.next_effect _ _ found]
              simp only [History.recordSession, found]
              exact captures_poll history name session
      | launch name kind =>
          simp [History.recordSession, History.begin, History.withTrail, Bench.performSession,
            Bench.keepSession, Bench.withAdapter, captured?]
      | create name kind =>
          simp [History.recordSession, History.forget, History.withTrail, Bench.performSession,
            Bench.keepSession, Bench.withAdapter, captured?]
      | start name =>
          cases found : history.bench.sessionIn? .idle name <;>
            simp [History.recordSession, found, History.begin, History.withTrail,
              Bench.performSession, Bench.withAdapter, captured?]
      | stop name =>
          cases found : history.bench.sessionIn? .capturing name <;>
            simp [History.recordSession, found, History.forget, History.withTrail,
              Bench.performSession, Bench.withAdapter, captured?]
      | discard name =>
          simp [History.recordSession, History.forget, History.withTrail, Bench.performSession,
            Bench.withAdapter, captured?]
      | kind name => simp [History.recordSession, Bench.performSession, captured?]

/-- A history has the bench of the bare run. -/
theorem bench_run (steps : List Step) :
    (history.run steps).bench = (history.bench.run (steps.map Step.command)).value.2 := by
  induction steps generalizing history with
  | nil => rfl
  | cons step steps ih =>
      rw [History.run_cons, ih, List.map_cons, Bench.value_run_cons]
      rfl

/-- A history has captured just the bindings that the bare run replies with. -/
theorem captures_run (steps : List Step) :
    (history.run steps).captures.map Capture.binding =
      history.captures.map Capture.binding ++
        (history.bench.run (steps.map Step.command)).value.1.filterMap captured? := by
  induction steps generalizing history with
  | nil => simp [Bench.run, History.run]
  | cons step steps ih =>
      rw [History.run_cons, ih, captures_step, List.map_cons, Bench.value_run_cons,
        List.append_assoc]
      congr 1
      rw [List.filterMap_cons]
      cases captured? (history.bench.perform step.command).value.1 <;> rfl

end Erasure

end PadCapture.Provenance
