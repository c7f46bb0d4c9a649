import PadCapture.Proofs.Gamepad.Mirror

/-!
# Ports of gamepads over many polls

A gamepad that is new gets the number of gamepads that have a port already, as long as this
is the number of a port.  So the first four gamepads that appear get the ports in order, all
later ones get none, and nobody ever loses a port.  A report of a gamepad without a port is
as good as none.
-/

namespace PadCapture.Gamepad

/-- A table of gamepads and the numbers of their ports, after one more gamepad has appeared. -/
def grant (table : List (Nat × Nat)) (gamepad : Nat) : List (Nat × Nat) :=
  if (table.lookup gamepad).isNone ∧ table.length < Port.count
  then table ++ [(gamepad, table.length)] else table

/-- The table after some gamepads have appeared. -/
def granted (names : List Nat) : List (Nat × Nat) := names.foldl grant []

section Table

variable (owners names : List Nat) (gamepad : Nat)

theorem lookup_zipIdx (start : Nat) :
    (owners.zipIdx start).lookup gamepad =
      if gamepad ∈ owners then some (start + owners.idxOf gamepad) else none := by
  induction owners generalizing start with
  | nil => rfl
  | cons owner owners ih =>
      rw [List.zipIdx_cons, List.lookup_cons]
      by_cases own : gamepad = owner
      · simp [own]
      · have missed : (gamepad == owner) = false := by simpa using own
        have later : (owner :: owners).idxOf gamepad = owners.idxOf gamepad + 1 :=
          List.idxOf_cons_ne _ (Ne.symm own)
        simp only [missed, ih, List.mem_cons, own, false_or, later, Nat.add_right_comm,
          Nat.add_assoc]

theorem zipIdx_concat (name : Nat) :
    (owners ++ [name]).zipIdx = owners.zipIdx ++ [(name, owners.length)] := by
  rw [List.zipIdx_append, List.zipIdx_singleton, Nat.zero_add]

/-- The table lists the first four gamepads in order of appearance, with the ports in order. -/
theorem granted_eq_zipIdx : granted names = (names.eraseDups.take Port.count).zipIdx := by
  induction names using List.reverseRecOn with
  | nil => rfl
  | append_singleton names name ih =>
      have once : granted (names ++ [name]) = grant (granted names) name := List.foldl_concat ..
      rw [once, ih, grant, lookup_zipIdx, List.length_zipIdx, List.length_take, eraseDups_concat]
      by_cases free : names.eraseDups.length < Port.count
      · rw [List.take_of_length_le (Nat.le_of_lt free), Nat.min_eq_right (Nat.le_of_lt free)]
        by_cases known : name ∈ names
        · rw [if_neg (by simp [known]), if_pos known, List.take_of_length_le (Nat.le_of_lt free)]
        · rw [if_pos (by simp [known, free]), if_neg known, List.take_of_length_le,
            zipIdx_concat]
          rw [List.length_append]
          exact free
      · -- With all ports taken, nobody is added any more.
        rw [if_neg (by omega)]
        split
        · rfl
        · rw [List.take_append_of_le_length (Nat.not_lt.mp free)]

end Table

/-- The owner of a port keeps it in whatever follows. -/
theorem owner?_append_of_some {connected : List Nat} {reports : List Report} {port : Port}
    {gamepad : Nat} (more : List Report) (owns : owner? connected reports port = some gamepad) :
    owner? connected (reports ++ more) port = some gamepad := by
  induction more using List.reverseRecOn with
  | nil => rwa [List.append_nil]
  | append_singleton more report ih =>
      rw [← List.append_assoc]
      exact owner?_concat_of_some report ih

namespace Source

section Lookup

variable {source : Source} (gamepad : Nat)

theorem port?_congr {other : Source} (same : other.owners = source.owners) :
    other.port? gamepad = source.port? gamepad := by
  rw [port?, port?, same]

theorem val_port?_of_inOrder {names : List Nat}
    (inOrder : source.owners = names.eraseDups.take Port.count) :
    (source.port? gamepad).map Fin.val = (granted names).lookup gamepad := by
  rw [granted_eq_zipIdx, lookup_zipIdx, ← inOrder, port?]
  by_cases owning : gamepad ∈ source.owners
  · have inside : source.owners.idxOf gamepad < 4 := by
      have place := List.idxOf_lt_length_of_mem owning
      have room : source.owners.length ≤ Port.count := inOrder ▸ List.length_take_le _ _
      exact Nat.lt_of_lt_of_le place room
    simp [owning, Port.ofNat?, inside]
  · simp [owning]

/-- A port belongs to the gamepad at its place in the order of appearance. -/
theorem port?_eq_some_iff {names : List Nat}
    (inOrder : source.owners = names.eraseDups.take Port.count) (port : Port) :
    source.port? gamepad = some port ↔ names.eraseDups[port.val]? = some gamepad := by
  have once : source.owners.Nodup :=
    inOrder ▸ (nodup_eraseDups names).sublist (List.take_sublist _ _)
  have onPorts : names.eraseDups[port.val]? = source.owners[port.val]? := by
    rw [inOrder, List.getElem?_take_of_lt (show port.val < Port.count from port.isLt)]
  rw [onPorts, port?]
  by_cases owning : gamepad ∈ source.owners
  · rw [if_pos owning, getElem?_eq_some_iff_idxOf once owning]
    constructor
    · exact fun owns => (Port.val_of_ofNat? owns).symm
    · intro place
      rw [← place, Port.ofNat?_val]
  · rw [if_neg owning]
    constructor
    · intro absent
      cases absent
    · exact fun owns => absurd (List.mem_of_getElem? owns) owning

/-- A gamepad that claims a port gets the one that it owns afterwards, if it owns one. -/
theorem port_claimPort {names : List Nat}
    (inOrder : source.owners = names.eraseDups.take Port.count) :
    (source.claimPort gamepad).value.1 = (source.claimPort gamepad).value.2.port? gamepad := by
  obtain ⟨stillInOrder, claims⟩ := claimPort_inOrder inOrder gamepad
  apply Option.ext
  intro port
  rw [claims, port?_eq_some_iff gamepad stillInOrder]

theorem claimPort_of_none (refused : (source.claimPort gamepad).value.1 = none) :
    (source.claimPort gamepad).value.2 = source := by
  unfold claimPort at refused ⊢
  cases owned : source.port? gamepad with
  | some port => rfl
  | none =>
      rw [owned] at refused
      dsimp only at refused ⊢
      split at refused
      · cases refused
      · rfl

end Lookup

section Polls

variable (source : Source) (adapter : Adapter)

/-- What more reports of the same poll lead to. -/
def Outcome.poll (outcome : Outcome) (later : List Report) : Outcome :=
  let others := (outcome.source.poll outcome.adapter later).value
  { others with handled := outcome.handled + others.handled }

/-- The source after some polls.  Each of them finds an adapter of its own, as it may have changed
in any way since the one before. -/
def afterPolls (source : Source) (polls : List (Adapter × List Report)) : Source :=
  polls.foldl (fun source poll => (source.poll poll.1 poll.2).value.source) source

theorem value_poll_cons (report : Report) (later : List Report) :
    (source.poll adapter (report :: later)).value =
      (source.handle adapter report).value.poll later := rfl

theorem value_poll_append (earlier later : List Report) :
    (source.poll adapter (earlier ++ later)).value =
      (source.poll adapter earlier).value.poll later := by
  induction earlier generalizing source adapter with
  | nil => simp [poll, Outcome.poll]
  | cons report earlier ih =>
      rw [List.cons_append, value_poll_cons, value_poll_cons]
      simp only [Outcome.poll, ih, Nat.add_assoc]

/-- A report of a gamepad that gets no port has no effect. -/
theorem value_handle_of_none {report : Report}
    (refused : (source.claimPort report.gamepad).value.1 = none) :
    (source.handle adapter report).value = ⟨source, adapter, 0⟩ := by
  rw [value_handle]
  dsimp only
  rw [refused, claimPort_of_none _ refused]

end Polls

namespace Follows

variable {connected : List Nat} {reports : List Report} {source : Source}

theorem source_poll (follows : source.Follows connected reports) (adapter : Adapter)
    (more : List Report) :
    (source.poll adapter more).value.source.Follows connected (reports ++ more) := by
  induction more generalizing reports source adapter with
  | nil => exact (List.append_nil reports).symm ▸ follows
  | cons report more ih =>
      have later := ih (follows.handle adapter report) (source.handle adapter report).value.adapter
      rwa [List.append_assoc, List.singleton_append] at later

theorem afterPolls (follows : source.Follows connected reports)
    (polls : List (Adapter × List Report)) :
    (source.afterPolls polls).Follows connected (reports ++ polls.flatMap Prod.snd) := by
  induction polls generalizing reports source with
  | nil => exact (List.append_nil reports).symm ▸ follows
  | cons poll polls ih =>
      have later := ih (follows.source_poll poll.1 poll.2)
      rwa [List.append_assoc, ← List.flatMap_cons] at later

theorem port?_iff (follows : source.Follows connected reports) {gamepad : Nat} {port : Port} :
    source.port? gamepad = some port ↔ owner? connected reports port = some gamepad :=
  port?_eq_some_iff gamepad follows.owners port

/-- A report of a gamepad that has no port even after it may be left out. -/
theorem value_poll_without (follows : source.Follows connected reports) {adapter : Adapter}
    {earlier later : List Report} {report : Report}
    (unowned : (source.poll adapter (earlier ++ [report])).value.source.port? report.gamepad =
      none) :
    (source.poll adapter (earlier ++ report :: later)).value =
      (source.poll adapter (earlier ++ later)).value := by
  rw [value_poll_append] at unowned
  rw [value_poll_append, value_poll_append]
  have first := follows.source_poll adapter earlier
  generalize (source.poll adapter earlier).value = outcome at unowned first
  have refused : (outcome.source.claimPort report.gamepad).value.1 = none := by
    rw [port_claimPort _ first.owners, ← unowned]
    exact (port?_congr _ (outcome.source.owners_handle outcome.adapter report)).symm
  rw [Outcome.poll, Outcome.poll, value_poll_cons,
    outcome.source.value_handle_of_none outcome.adapter refused]
  simp [Outcome.poll]

end Follows

end Source

/-- Whatever polls there are and whatever happens to the adapter between them: the first four
gamepads in order of appearance own the ports in order, all later ones own none, and who owns a
port keeps it.  The ports are those of a table in which a new gamepad gets the number of
gamepads before it.  A report of a gamepad without a port may be left out of its poll: it
changes neither the source nor the adapter, and it is not counted. -/
theorem ports_in_order_of_appearance (connected : List Nat)
    (polls : List (Adapter × List Report)) :
    let source := (Source.connect connected).value.afterPolls polls
    let reports := polls.flatMap Prod.snd
    (∀ gamepad port, source.port? gamepad = some port ↔
      (connected ++ reports.map Report.gamepad).eraseDups[port.val]? = some gamepad) ∧
    (∀ gamepad, source.port? gamepad = none ↔
      gamepad ∉ (connected ++ reports.map Report.gamepad).eraseDups.take Port.count) ∧
    (∀ gamepad, (source.port? gamepad).map Fin.val =
      (granted (connected ++ reports.map Report.gamepad)).lookup gamepad) ∧
    (∀ first second port, source.port? first = some port → source.port? second = some port →
      first = second) ∧
    (∀ gamepad port, source.port? gamepad = some port → port.val < Port.count ∧
      ∀ more, (source.afterPolls more).port? gamepad = some port) ∧
    ∀ adapter earlier report later,
      (source.poll adapter (earlier ++ [report])).value.source.port? report.gamepad = none →
        (source.poll adapter (earlier ++ report :: later)).value =
          (source.poll adapter (earlier ++ later)).value := by
  intro source reports
  have follows : source.Follows connected reports :=
    (Source.follows_connect connected).afterPolls polls
  refine ⟨fun _ _ => follows.port?_iff, ?_, ?_, ?_, ?_, ?_⟩
  · intro gamepad
    change _ ↔ gamepad ∉ owning connected reports
    rw [mem_owning_iff, not_exists, Option.eq_none_iff_forall_ne_some]
    exact forall_congr' fun port => not_congr follows.port?_iff
  · exact fun gamepad => Source.val_port?_of_inOrder gamepad follows.owners
  · intro first second port owns other
    exact Option.some.inj ((follows.port?_iff.mp owns).symm.trans (follows.port?_iff.mp other))
  · intro gamepad port owns
    refine ⟨port.isLt, fun more => ?_⟩
    rw [(follows.afterPolls more).port?_iff]
    exact owner?_append_of_some _ (follows.port?_iff.mp owns)
  · intro adapter earlier report later unowned
    exact follows.value_poll_without unowned

end PadCapture.Gamepad
