import PadCapture.Proofs.Capture.Bindings
import PadCapture.Proofs.Capture.History
import PadCapture.Proofs.Capture.Isolation
import PadCapture.Proofs.Capture.Picking
import PadCapture.Proofs.Capture.SinglePort
import Mathlib.Data.List.ReduceOption

/-!
# Captures and the schedule of their polls

While states and samples arrive, the only session of an adapter polls now and then, and at
the end until a poll fails.  The bindings that it returns depend on the accepted samples
alone and not on when the polls were made: a button session returns at every port what the
samples of this port make, and a stick session whose samples are all at one port returns
the pairs that a single pass over them finds.
-/

namespace PadCapture

namespace Isolation.View

variable (view : View)

/-- The view after some steps. -/
def after (steps : List Step) : View := steps.foldl (fun view step => (view.step step).2) view

theorem replies_append (earlier later : List Step) :
    view.replies (earlier ++ later) =
      view.replies earlier ++ (view.after earlier).replies later := by
  induction earlier generalizing view with
  | nil => rfl
  | cons step earlier ih => exact congrArg (List.cons _) (ih (view.step step).2)

/-- The queues that the view tells, at an adapter of their own. -/
def adapter : Adapter := Adapter.initial.withQueues view.queues

theorem queue_adapter (port : Port) : view.adapter.queue port = view.queues port :=
  Adapter.queue_withQueues ..

/-- After a poll in vain nothing is waiting. -/
theorem queues_of_polled_none (vain : view.polled.binding = none) (port : Port) :
    view.polled.rest.queue port = [] :=
  (view.poller.portsDrained view.adapter Port.all).queue_of_none vain (.inl (Port.mem_all port))

/-- Nothing is waiting either when the last of some steps was a poll in vain. -/
theorem queues_after_of_vain {steps : List Step} {before : List Reply}
    (vain : view.replies steps = before ++ [.binding none]) (port : Port) :
    (view.after steps).queues port = [] := by
  rcases steps.eq_nil_or_concat' with rfl | ⟨earlier, last, rfl⟩
  · exact (List.append_ne_nil_of_right_ne_nil _ (List.cons_ne_nil _ _) vain.symm).elim
  · rw [replies_append] at vain
    have lastReply : ((view.after earlier).step last).1 = .binding none :=
      (List.cons.inj (List.append_inj_right' vain rfl)).1
    rw [after, List.foldl_append]
    cases last with
    | poll => exact queues_of_polled_none (view.after earlier) (Reply.binding.inj lastReply) port
    | _ => cases lastReply

end Isolation.View

/-- What arrives at an adapter from outside. -/
inductive Supply where
  | update (port : Nat) (shown : PortState)
  | push (sample : Sample)

/-- What arrives, in order, and the polls between: a poll is where nothing arrives. -/
abbrev Schedule := List (Option Supply)

namespace Schedule

/-- The sample that a port accepts in capture mode. -/
def acceptedAt? (port : Port) : Supply → Option Sample
  | .update number shown => if number = port.val then Sample.ofState? number shown else none
  | .push sample => if sample.port = port.val then some sample else none

/-- The samples that a port accepts in capture mode, wherever the polls are made. -/
def accepted (schedule : Schedule) (port : Port) : List Sample :=
  schedule.reduceOption.filterMap (acceptedAt? port)

def stepOf : Option Supply → Isolation.Step
  | none => .poll
  | some (.update port shown) => .update port shown
  | some (.push sample) => .push sample

section Replies

variable (bench : Bench) (own : String) (schedule : Schedule)

/-- The replies when the session under the name begins and the schedule is carried out. -/
def replies : List Reply :=
  (bench.run (.session (.start own) ::
    (schedule.map stepOf).map (Isolation.Step.command own))).value.1

/-- The bindings that the session returns. -/
def returned : List Params := (replies bench own schedule).filterMap Provenance.captured?

/-- The last thing that happens is a poll without a binding. -/
def EndsInVain : Prop := ∃ before, replies bench own schedule = before ++ [.binding none]

def inVain : Reply → Bool
  | .binding none => true
  | _ => false

theorem any_inVain_iff : ((replies bench own schedule).getLast?.any inVain = true) ↔
    EndsInVain bench own schedule := by
  constructor
  · intro vain
    obtain ⟨last, isLast, inVain⟩ := (Option.any_eq_true _ _).mp vain
    obtain ⟨before, split⟩ := List.getLast?_eq_some_iff.mp isLast
    refine ⟨before, ?_⟩
    unfold Schedule.inVain at inVain
    split at inVain
    · exact split
    · cases inVain
  · rintro ⟨before, split⟩
    rw [split, List.getLast?_concat]
    rfl

instance instDecidableEndsInVain : Decidable (EndsInVain bench own schedule) :=
  decidable_of_iff _ (any_inVain_iff bench own schedule)

variable {bench own} in
theorem replies_eq {session : Session} (idle : bench.sessionIn? .idle own = some session)
    (schedule : Schedule) :
    replies bench own schedule =
      .configuring true ::
        (Isolation.View.begun session.kind).replies (schedule.map stepOf) := by
  apply Isolation.replies_start idle
  intro step member label labelled
  obtain ⟨supply?, _, rfl⟩ := List.mem_map.mp member
  rcases supply? with _ | _ | _ <;> cases labelled

end Replies

section Views

open Isolation

variable (view : View) (own : Port)

theorem accepted_cons_some (supply : Supply) (schedule : Schedule) (port : Port) :
    accepted (some supply :: schedule) port =
      (acceptedAt? port supply).toList ++ accepted schedule port := by
  rw [accepted, List.reduceOption_cons_of_some, List.filterMap_cons]
  cases acceptedAt? port supply <;> rfl

theorem accepted_cons_none (schedule : Schedule) (port : Port) :
    accepted (none :: schedule) port = accepted schedule port := by
  rw [accepted, List.reduceOption_cons_of_none]
  rfl

/-- The view after something has arrived. -/
def supplied (supply : Supply) : View :=
  { view with queues := fun port => view.queues port ++ (acceptedAt? port supply).toList }

theorem step_supply (supply : Supply) :
    view.step (stepOf (some supply)) = (.configuring true, supplied view supply) := by
  cases supply <;> rfl

/-- The view after a poll. -/
def polledOnce : View :=
  { view with queues := view.polled.rest.queue, poller := view.polled.poller }

theorem step_poll : view.step (stepOf none) = (.binding view.polled.binding, polledOnce view) := rfl

/-- A poll returns the first binding that is to come and leaves the others. -/
theorem bindings_poll
    (quiet : view.poller.kind = .button ∨ ∀ other, other ≠ own → view.queues other = [])
    (later : List Sample) :
    view.poller.bindings own (view.queues own ++ later) =
      view.polled.binding.toList.filter (Poller.concerns view.poller.kind own) ++
        (polledOnce view).poller.bindings own ((polledOnce view).queues own ++ later) := by
  have quietQueues : view.poller.kind = .button ∨
      ∀ other, other ≠ own → view.adapter.queue other = [] := by
    refine quiet.imp_right fun empty other different => ?_
    rw [view.queue_adapter, empty other different]
  have drained := (view.poller.portsDrained view.adapter Port.all).bindings quietQueues later
  rwa [view.queue_adapter] at drained

theorem queues_polledOnce_of_empty {port : Port} (empty : view.queues port = []) :
    (polledOnce view).queues port = [] := by
  have shorter := view.poller.queue_next_suffix view.adapter port
  rw [view.queue_adapter, empty] at shorter
  exact List.suffix_nil.mp shorter

/-- The samples that are left and those still to come make the same bindings before and
after any part of the schedule, apart from those returned in it. -/
theorem bindings_after (schedule : Schedule)
    (quiet : view.poller.kind = .button ∨
      ∀ other, other ≠ own → view.queues other = [] ∧ accepted schedule other = []) :
    view.poller.bindings own (view.queues own ++ accepted schedule own) =
      ((view.replies (schedule.map stepOf)).filterMap Provenance.captured?).filter
          (Poller.concerns view.poller.kind own) ++
        (view.after (schedule.map stepOf)).poller.bindings own
          ((view.after (schedule.map stepOf)).queues own) := by
  -- What has been returned and what the poller will make of the rest is one list, which no
  -- step changes: an arrival moves a sample from those to come into the queue, and a poll
  -- moves a binding from those to be made to those returned.
  induction schedule generalizing view with
  | nil => exact congrArg _ (List.append_nil _)
  | cons supply? schedule ih =>
      rw [List.map_cons, View.replies, View.after, List.foldl_cons]
      cases supply? with
      | some supply =>
          simp only [accepted_cons_some, List.append_eq_nil_iff, Option.toList_eq_nil_iff] at quiet
          have quietLater : (supplied view supply).poller.kind = .button ∨ ∀ other, other ≠ own →
              (supplied view supply).queues other = [] ∧ accepted schedule other = [] := by
            refine quiet.imp_right fun empty other different => ?_
            obtain ⟨queue, none_accepted, none_later⟩ := empty other different
            exact ⟨by simp [supplied, queue, none_accepted], none_later⟩
          rw [accepted_cons_some, ← List.append_assoc, step_supply]
          exact ih (supplied view supply) quietLater
      | none =>
          simp only [accepted_cons_none] at quiet
          have kept : (polledOnce view).poller.kind = view.poller.kind :=
            (view.poller.portsDrained view.adapter Port.all).kind
          have quietLater : (polledOnce view).poller.kind = .button ∨ ∀ other, other ≠ own →
              (polledOnce view).queues other = [] ∧ accepted schedule other = [] := by
            rw [kept]
            refine quiet.imp_right fun empty other different => ?_
            obtain ⟨queue, none_later⟩ := empty other different
            exact ⟨queues_polledOnce_of_empty view queue, none_later⟩
          have first := bindings_poll view own
            (quiet.imp_right fun empty other different => (empty other different).1)
            (accepted schedule own)
          rw [accepted_cons_none, first, ih (polledOnce view) quietLater, step_poll, kept,
            ← List.append_assoc, ← List.filter_append]
          congr 2
          cases view.polled.binding <;> rfl

/-- Polling often enough ends with a poll in vain. -/
theorem exists_polls_in_vain :
    ∃ polls before, view.replies (List.replicate polls .poll) = before ++ [.binding none] := by
  -- Every binding uses up a sample, so the induction is on how many are waiting.
  generalize waiting : ∑ port, (view.queues port).length = count
  induction count using Nat.strong_induction_on generalizing view with
  | _ count ih =>
      cases polled : view.polled.binding with
      | none =>
          refine ⟨1, [], ?_⟩
          change [Reply.binding view.polled.binding] = _
          rw [polled]
          rfl
      | some binding =>
          have fewer := view.poller.sum_length_next_lt view.adapter polled
          simp only [view.queue_adapter, waiting] at fewer
          obtain ⟨polls, before, vain⟩ := ih _ fewer (polledOnce view) rfl
          refine ⟨polls + 1, .binding (some binding) :: before, ?_⟩
          rw [List.replicate_succ, View.replies, List.cons_append, ← vain, ← polled]
          rfl

end Views

section Captures

open Isolation

variable {bench : Bench} {own : String} {session : Session}

/-- However a schedule goes on, polling often enough ends it. -/
theorem exists_endsInVain (idle : bench.sessionIn? .idle own = some session)
    (schedule : Schedule) :
    ∃ polls, EndsInVain bench own (schedule ++ List.replicate polls none) := by
  obtain ⟨polls, before, vain⟩ :=
    exists_polls_in_vain ((View.begun session.kind).after (schedule.map stepOf))
  refine ⟨polls, .configuring true ::
    ((View.begun session.kind).replies (schedule.map stepOf) ++ before), ?_⟩
  rw [replies_eq idle, List.map_append, List.map_replicate, stepOf, View.replies_append, vain,
    List.cons_append, List.append_assoc]

/-- What a session returns for a port until a poll in vain is what its poller makes of all
the samples that the port has accepted. -/
theorem returned_eq_bindings (idle : bench.sessionIn? .idle own = some session)
    {schedule : Schedule} (vain : EndsInVain bench own schedule) (port : Port)
    (quiet : session.kind = .button ∨ ∀ other, other ≠ port → accepted schedule other = []) :
    (returned bench own schedule).filter (Poller.concerns session.kind port) =
      (Poller.fresh session.kind).bindings port (accepted schedule port) := by
  have fresh_kind : (View.begun session.kind).poller.kind = session.kind :=
    Poller.kind_fresh session.kind
  have all := bindings_after (View.begun session.kind) port schedule (by
    rw [fresh_kind]
    exact quiet.imp_right fun empty other different => ⟨rfl, empty other different⟩)
  obtain ⟨before, last⟩ := vain
  rw [replies_eq idle] at last
  have emptied : ((View.begun session.kind).after (schedule.map stepOf)).queues port = [] := by
    cases before with
    | nil => cases (List.cons.inj last).1
    | cons first before => exact View.queues_after_of_vain _ (List.cons.inj last).2 port
  rw [emptied, Poller.bindings, List.append_nil, fresh_kind] at all
  rw [returned, replies_eq idle]
  exact all.symm

end Captures

/-- Up to a poll in vain, which polling often enough always reaches, an idle session that
begins returns what the accepted samples tell, wherever the polls between are made.  For
every port a button session returns one binding for each sample with a known button or an
axis, in the order in which the port accepted them.  A stick session, if only one port
accepts samples, returns one binding for each pair that one pass over the axes of the
samples that have moved finds. -/
theorem returned_determined_by_accepted (bench : Bench) (own : String) (session : Session)
    (idle : bench.sessionIn? .idle own = some session) :
    (∀ schedule, ∃ polls, EndsInVain bench own (schedule ++ List.replicate polls none)) ∧
    ∀ schedule, EndsInVain bench own schedule →
      (session.kind = .button → ∀ port,
        List.Forall₂ (Binding.Binds port) ((accepted schedule port).filter (·.Bindable))
          ((returned bench own schedule).filter (Binding.isAt port))) ∧
      (session.kind = .analog → ∀ port,
        (∀ other, other ≠ port → accepted schedule other = []) →
        List.Forall₂ (Binding.Joins port)
          (Poller.pairs none ((accepted schedule port).filterMap Sample.livelyAxis?))
          (returned bench own schedule)) := by
  refine ⟨exists_endsInVain idle, ?_⟩
  intro schedule vain
  constructor
  · intro button port
    have returns := returned_eq_bindings idle vain port (.inl button)
    rw [Poller.bindings_of_button (by rw [Poller.kind_fresh, button]), button] at returns
    have atPort : (returned bench own schedule).filter (Binding.isAt port) = _ := returns
    rw [atPort]
    exact Binding.forall₂_binds port _
  · intro analog port lonely
    have returns := returned_eq_bindings idle vain port (.inr lonely)
    have all : (returned bench own schedule).filter (Poller.concerns .analog port) =
        returned bench own schedule :=
      List.filter_eq_self.mpr fun _ _ => rfl
    rw [analog, all] at returns
    rw [returns]
    exact Poller.bindings_holding port none _

/-- A stick session that polls after each sample, beside a registration that is held, finds
the same stick as when all samples have arrived before its first poll. -/
theorem returned_early_and_late :
    let bench := ((Bench.create .fixed (.zero false)).value.run
      [.registration (.hold "game"), .session (.create "stick" .analog)]).value.2
    let right := some (Supply.push ⟨1, .empty, some .stickX, 200⟩)
    let left := some (Supply.push ⟨1, .empty, some .stickX, 60⟩)
    let up := some (Supply.push ⟨1, .empty, some .stickY, 200⟩)
    List.Forall₂ (Binding.Joins 1) [(.stickX, .stickY)]
        (returned bench "stick" [right, none, left, none, up, none, none]) ∧
      List.Forall₂ (Binding.Joins 1) [(.stickX, .stickY)]
        (returned bench "stick" [right, left, up, none, none]) := by
  intro bench right left up
  have settled := (returned_determined_by_accepted bench "stick" (.inPhase .idle (.analog none))
    (by decide +kernel)).2
  constructor
  · exact (settled [right, none, left, none, up, none, none] (by decide +kernel)).2 rfl 1
      (by decide +kernel)
  · exact (settled [right, left, up, none, none] (by decide +kernel)).2 rfl 1 (by decide +kernel)

end Schedule

end PadCapture
