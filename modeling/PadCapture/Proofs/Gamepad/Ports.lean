import PadCapture.Gamepad.Source
import Mathlib.Data.List.Basic
import Mathlib.Data.List.Nodup
import Mathlib.Data.List.Induction
import Mathlib.Data.List.Perm.Basic

/-!
# Ports in order of appearance

The gamepads that are connected at the start appear first, then those of the reports.  The
first four that appear own the ports for good, so the changes of a port are those of its
owner.
-/

namespace PadCapture.Gamepad

/-- The gamepads in order of their first appearance. -/
def appearing (connected : List Nat) (reports : List Report) : List Nat :=
  (connected ++ reports.map Report.gamepad).eraseDups

/-- The gamepads that own a port. -/
def owning (connected : List Nat) (reports : List Report) : List Nat :=
  (appearing connected reports).take Port.count

/-- The gamepad that owns a port. -/
def owner? (connected : List Nat) (reports : List Report) (port : Port) : Option Nat :=
  (appearing connected reports)[port.val]?

/-- The changes that one gamepad reports. -/
def changesOf (gamepad : Nat) (reports : List Report) : List Change :=
  (reports.filter fun report => report.gamepad = gamepad).map Report.change

/-- The changes that the owner of a port reports. -/
def ownChanges (connected : List Nat) (reports : List Report) (port : Port) : List Change :=
  ((owner? connected reports port).map fun gamepad => changesOf gamepad reports).getD []

section Order

variable (names : List Nat) (name : Nat)

theorem eraseDups_concat :
    (names ++ [name]).eraseDups =
      if name ∈ names then names.eraseDups else names.eraseDups ++ [name] := by
  rw [List.eraseDups_append]
  by_cases known : name ∈ names <;> simp [List.removeAll, List.eraseDups_cons, known]

theorem nodup_eraseDups : names.eraseDups.Nodup := by
  induction names using List.reverseRecOn with
  | nil => exact List.nodup_nil
  | append_singleton names name ih =>
      rw [eraseDups_concat]
      split
      · exact ih
      next new =>
        refine List.nodup_append.mpr ⟨ih, List.nodup_singleton name, ?_⟩
        rintro other member last isLast rfl
        rw [List.mem_singleton.mp isLast] at member
        exact new (List.mem_eraseDups.mp member)

theorem getElem?_eq_some_iff_idxOf {names : List Nat} (once : names.Nodup) {name place : Nat}
    (member : name ∈ names) : names[place]? = some name ↔ place = names.idxOf name := by
  constructor
  · intro found
    obtain ⟨inside, rfl⟩ := List.getElem?_eq_some_iff.mp found
    exact (once.idxOf_getElem place inside).symm
  · rintro rfl
    exact List.getElem?_idxOf member

end Order

section Appearing

variable (connected : List Nat) (reports : List Report) (report : Report)

theorem appearing_concat :
    appearing connected (reports ++ [report]) =
      if report.gamepad ∈ appearing connected reports then appearing connected reports
      else appearing connected reports ++ [report.gamepad] := by
  simp only [appearing, List.map_append, List.map_singleton, ← List.append_assoc,
    eraseDups_concat, List.mem_eraseDups]

theorem mem_appearing_of_mem {report : Report} (member : report ∈ reports) :
    report.gamepad ∈ appearing connected reports :=
  List.mem_eraseDups.mpr (List.mem_append_right _ (List.mem_map_of_mem member))

theorem changesOf_concat (gamepad : Nat) :
    changesOf gamepad (reports ++ [report]) =
      changesOf gamepad reports ++ if report.gamepad = gamepad then [report.change] else [] := by
  by_cases own : report.gamepad = gamepad <;> simp [changesOf, own]

theorem changesOf_eq_nil {gamepad : Nat} (absent : gamepad ∉ appearing connected reports) :
    changesOf gamepad reports = [] := by
  rw [changesOf, List.map_eq_nil_iff, List.filter_eq_nil_iff]
  intro report member own
  exact absent (of_decide_eq_true own ▸ mem_appearing_of_mem connected reports member)

/-- Each gamepad reports its own changes in order, so these tell which reports there are. -/
theorem count_eq_count_changesOf :
    reports.count report = (changesOf report.gamepad reports).count report.change := by
  obtain ⟨gamepad, change⟩ := report
  induction reports with
  | nil => rfl
  | cons first reports ih =>
      obtain ⟨firstGamepad, firstChange⟩ := first
      rw [List.count_cons, ih]
      by_cases own : firstGamepad = gamepad <;> simp [changesOf, own, List.count_cons]

theorem ownChanges_nil (port : Port) : ownChanges connected [] port = [] := by
  cases owned : owner? connected [] port <;> simp [ownChanges, owned, changesOf]

/-- How the reports of different gamepads are mixed makes no other reports of them. -/
theorem perm_of_changesOf_eq {reports others : List Report}
    (same : ∀ gamepad, changesOf gamepad others = changesOf gamepad reports) :
    others.Perm reports :=
  List.perm_iff_count.mpr fun report => by
    rw [count_eq_count_changesOf, same, ← count_eq_count_changesOf]

variable {connected reports}

/-- Whether a gamepad owns a port is settled when it appears. -/
theorem mem_owning_concat {gamepad : Nat} (known : gamepad ∈ appearing connected reports) :
    gamepad ∈ owning connected (reports ++ [report]) ↔ gamepad ∈ owning connected reports := by
  rw [owning, owning, appearing_concat]
  split
  · rfl
  next new =>
    rw [List.take_append, List.mem_append]
    refine or_iff_left fun late => new ?_
    rwa [← List.mem_singleton.mp (List.mem_of_mem_take late)]

theorem mem_owning_iff {gamepad : Nat} :
    gamepad ∈ owning connected reports ↔
      ∃ port, owner? connected reports port = some gamepad := by
  rw [owning, List.mem_take_iff_getElem]
  constructor
  · rintro ⟨place, inside, found⟩
    obtain ⟨onPort, appeared⟩ := Nat.lt_min.mp inside
    exact ⟨⟨place, onPort⟩, List.getElem?_eq_some_iff.mpr ⟨appeared, found⟩⟩
  · rintro ⟨port, owns⟩
    obtain ⟨appeared, found⟩ := List.getElem?_eq_some_iff.mp owns
    exact ⟨port.val, Nat.lt_min.mpr ⟨port.isLt, appeared⟩, found⟩

/-- The owner of a port keeps it. -/
theorem owner?_concat_of_some {port : Port} {gamepad : Nat}
    (owns : owner? connected reports port = some gamepad) :
    owner? connected (reports ++ [report]) port = some gamepad := by
  obtain ⟨inside, -⟩ := List.getElem?_eq_some_iff.mp owns
  rw [owner?, appearing_concat]
  split
  · exact owns
  · rwa [List.getElem?_append_left inside]

/-- Who comes to own a free port is new and the one that just reported. -/
theorem eq_of_owner?_concat {port : Port} {gamepad : Nat}
    (free : owner? connected reports port = none)
    (owns : owner? connected (reports ++ [report]) port = some gamepad) :
    gamepad = report.gamepad ∧ gamepad ∉ appearing connected reports := by
  rw [owner?, appearing_concat] at owns
  split at owns
  next known => exact absurd (free.symm.trans owns) (by simp)
  next new =>
    rw [List.getElem?_append_right (List.getElem?_eq_none_iff.mp free)] at owns
    obtain rfl : report.gamepad = gamepad :=
      List.mem_singleton.mp (List.mem_of_getElem? owns) |>.symm
    exact ⟨rfl, new⟩

variable (connected reports)

/-- A report is one more change of the port that its gamepad owns, and of no other port. -/
theorem ownChanges_concat (port : Port) :
    ownChanges connected (reports ++ [report]) port =
      ownChanges connected reports port ++
        if owner? connected (reports ++ [report]) port = some report.gamepad then [report.change]
        else [] := by
  unfold ownChanges
  cases before : owner? connected reports port with
  | some gamepad =>
      have kept := owner?_concat_of_some report before
      simp [kept, changesOf_concat, eq_comm]
  | none =>
      cases after : owner? connected (reports ++ [report]) port with
      | none => simp
      | some gamepad =>
          obtain ⟨rfl, new⟩ := eq_of_owner?_concat report before after
          simp [changesOf_concat, changesOf_eq_nil connected reports new]

theorem ownChanges_congr {otherConnected : List Nat} {others : List Report}
    (sameOrder : appearing otherConnected others = appearing connected reports)
    (sameChanges : ∀ gamepad, changesOf gamepad others = changesOf gamepad reports)
    (port : Port) : ownChanges otherConnected others port = ownChanges connected reports port := by
  simp only [ownChanges, owner?, sameOrder, sameChanges]

end Appearing

namespace Source

variable (source : Source) (gamepad : Nat)

/-- A gamepad that owns a port keeps it, a new one gets the next port, and when no port is left
it gets none. -/
theorem claimPort_cases (room : source.owners.length ≤ Port.count) :
    (gamepad ∈ source.owners ∧ ∃ port : Port, port.val = source.owners.idxOf gamepad ∧
      (source.claimPort gamepad).value = (some port, source)) ∨
    (gamepad ∉ source.owners ∧ ∃ port : Port, port.val = source.owners.length ∧
      (source.claimPort gamepad).value =
        (some port, { source with owners := source.owners ++ [gamepad] })) ∨
    (gamepad ∉ source.owners ∧ source.owners.length = Port.count ∧
      (source.claimPort gamepad).value = (none, source)) := by
  by_cases known : gamepad ∈ source.owners
  · have inside : source.owners.idxOf gamepad < 4 :=
      Nat.lt_of_lt_of_le (List.idxOf_lt_length_of_mem known) room
    have owns : source.port? gamepad = some ⟨_, inside⟩ := by
      simp [port?, known, Port.ofNat?, inside]
    exact .inl ⟨known, ⟨_, inside⟩, rfl, by simp [claimPort, owns]⟩
  · have unknown : source.port? gamepad = none := if_neg known
    by_cases free : source.owners.length < 4
    · exact .inr (.inl ⟨known, ⟨_, free⟩, rfl, by simp [claimPort, unknown, Port.ofNat?, free]⟩)
    · exact .inr (.inr ⟨known, Nat.le_antisymm room (Nat.not_lt.mp free), by
        simp [claimPort, unknown, Port.ofNat?, free]⟩)

theorem states_claimPort : (source.claimPort gamepad).value.2.states = source.states := by
  rw [claimPort]
  split
  · rfl
  · split <;> rfl

/-- If the gamepads own the ports in order of appearance, then they still do after one more has
appeared, and this one is given the port of its place in the order. -/
theorem claimPort_inOrder {source : Source} {names : List Nat}
    (inOrder : source.owners = names.eraseDups.take Port.count) (gamepad : Nat) :
    (source.claimPort gamepad).value.2.owners =
        (names ++ [gamepad]).eraseDups.take Port.count ∧
      ∀ port : Port, (source.claimPort gamepad).value.1 = some port ↔
        (names ++ [gamepad]).eraseDups[port.val]? = some gamepad := by
  have room : source.owners.length ≤ Port.count := by
    rw [inOrder]
    exact List.length_take_le _ _
  have onPorts : ∀ port : Port, names.eraseDups[port.val]? = source.owners[port.val]? := by
    intro port
    rw [inOrder, List.getElem?_take_of_lt (show port.val < Port.count from port.isLt)]
  rw [eraseDups_concat]
  rcases source.claimPort_cases gamepad room with
    ⟨owning, own, place, claimed⟩ | ⟨absent, next, place, claimed⟩ | ⟨absent, full, claimed⟩
  -- An owner has appeared before: neither the owners nor the order change.
  · have known : gamepad ∈ names :=
      List.mem_eraseDups.mp (List.mem_of_mem_take (inOrder ▸ owning))
    have once : source.owners.Nodup :=
      inOrder ▸ (nodup_eraseDups names).sublist (List.take_sublist _ _)
    rw [claimed, if_pos known]
    refine ⟨inOrder, fun port => ?_⟩
    rw [onPorts, getElem?_eq_some_iff_idxOf once owning, ← place, Option.some.injEq, eq_comm,
      Fin.ext_iff]
  -- With a port left, the owners are all that have appeared, and the gamepad is new.
  · have short : names.eraseDups.length < Port.count := by
      have bound : source.owners.length < Port.count := place ▸ next.isLt
      rw [inOrder, List.length_take] at bound
      omega
    have all : source.owners = names.eraseDups := by
      rw [inOrder, List.take_of_length_le (Nat.le_of_lt short)]
    have new : gamepad ∉ names := fun known => absent (all ▸ List.mem_eraseDups.mpr known)
    have once : (names.eraseDups ++ [gamepad]).Nodup := by
      have := nodup_eraseDups (names ++ [gamepad])
      rwa [eraseDups_concat, if_neg new] at this
    rw [claimed, if_neg new]
    constructor
    · change source.owners ++ [gamepad] = _
      rw [all, List.take_of_length_le]
      rw [List.length_append]
      exact short
    · intro port
      rw [getElem?_eq_some_iff_idxOf once (by simp), ← all, List.idxOf_append_of_notMem absent,
        List.idxOf_cons_self, Nat.add_zero, ← place, Option.some.injEq, eq_comm, Fin.ext_iff]
  -- With all ports taken, the first four stay the same, whether the gamepad is new or not.
  · have long : Port.count ≤ names.eraseDups.length := by
      rw [inOrder, List.length_take] at full
      omega
    rw [claimed]
    constructor
    · change source.owners = _
      split
      · exact inOrder
      · rw [List.take_append_of_le_length long, inOrder]
    · intro port
      have unowned : source.owners[port.val]? ≠ some gamepad :=
        fun owns => absent (List.mem_of_getElem? owns)
      have before : port.val < names.eraseDups.length := Nat.lt_of_lt_of_le port.isLt long
      split
      · simpa [onPorts] using unowned
      · rw [List.getElem?_append_left before, onPorts]
        simpa using unowned

end Source

end PadCapture.Gamepad
