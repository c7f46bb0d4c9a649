import PadCapture.Clock.Bench
import PadCapture.Proofs.Clock.Conversion

/-!
# Clock readings along a run

Wall clocks are created, read and paused while the host clock that they share advances.
Host time never goes back and nobody else is asked for the time, so every reading is that
of the host time since the creation of the clock: readings never decrease, two clocks keep
their distance, and no count drifts, however many steps the time is made of.
-/

namespace PadCapture.Clock

namespace HostClock

variable (host : HostClock) (nanos : UInt64)

theorem toNat_advance :
    (host.advance nanos).now.toNat = min (host.now.toNat + nanos.toNat) largestCount := by
  have small : min (host.now.toNat + nanos.toNat) largestCount < UInt64.size :=
    Nat.lt_of_le_of_lt (Nat.min_le_right _ _) (by decide)
  exact UInt64.toNat_ofNat_of_lt' small

theorem le_advance : host.now ≤ (host.advance nanos).now := by
  have within := toNat_le_largestCount host.now
  rw [UInt64.le_iff_toNat_le, toNat_advance]
  omega

theorem le_moveTo : host.now ≤ (host.moveTo nanos).now := by
  change host.now ≤ if host.now ≤ nanos then nanos else host.now
  split
  · assumption
  · exact UInt64.le_refl _

end HostClock

theorem WallClock.toNat_elapsed (clock : WallClock) (host : HostClock) :
    (clock.elapsed host).toNat = host.now.toNat - clock.start.toNat := by
  have within := host.now.toNat_lt
  apply UInt64.toNat_ofNat_of_lt'
  simp only [UInt64.size]
  omega

section Counts

variable {first second : UInt64} (frequency : UInt32)

/-- The count of the elapsed time lies beyond 64 bits and is cut to the largest one. -/
def IsCut (elapsed : UInt64) : Prop :=
  largestCount < elapsed.toNat * frequency.toNat / nanosPerSecond

/-- From one reading to a later one a count does not decrease, and unless the later count is
cut, it grows by the cycles of the time between the two or by one more. -/
structure CountFollows (first second firstCycles secondCycles : UInt64) : Prop where
  monotone : firstCycles ≤ secondCycles
  growth : ¬ IsCut frequency second →
    secondCycles.toNat = firstCycles.toNat + (cyclesOfNanos (second - first) frequency).toNat ∨
      secondCycles.toNat =
        firstCycles.toNat + (cyclesOfNanos (second - first) frequency).toNat + 1

theorem toNat_cyclesOfNanos_of_not_isCut {elapsed : UInt64} (whole : ¬ IsCut frequency elapsed) :
    (cyclesOfNanos elapsed frequency).toNat = elapsed.toNat * frequency.toNat / nanosPerSecond := by
  rw [toNat_cyclesOfNanos, Nat.min_eq_left (Nat.not_lt.mp whole)]

theorem not_isCut_of_le (later : first ≤ second) (whole : ¬ IsCut frequency second) :
    ¬ IsCut frequency first := by
  have products := Nat.mul_le_mul_right frequency.toNat (UInt64.le_iff_toNat_le.mp later)
  have quotients := Nat.div_le_div_right (c := nanosPerSecond) products
  exact Nat.not_lt.mpr (Nat.le_trans quotients (Nat.not_lt.mp whole))

/-- Rounding down twice loses at most one cycle against rounding down once. -/
theorem countFollows_cyclesOfNanos (later : first ≤ second) :
    CountFollows frequency first second (cyclesOfNanos first frequency)
      (cyclesOfNanos second frequency) where
  monotone := cyclesOfNanos_mono frequency later
  growth := by
    intro whole
    have between : (second - first).toNat = second.toNat - first.toNat :=
      UInt64.toNat_sub_of_le _ _ later
    have ordered := UInt64.le_iff_toNat_le.mp later
    have shorter : second - first ≤ second := by
      rw [UInt64.le_iff_toNat_le, between]
      exact Nat.sub_le _ _
    have parts : second.toNat = first.toNat + (second - first).toNat := by omega
    have products : second.toNat * frequency.toNat =
        first.toNat * frequency.toNat + (second - first).toNat * frequency.toNat := by
      rw [← Nat.add_mul, ← parts]
    have quotients := Nat.add_div (a := first.toNat * frequency.toNat)
      (b := (second - first).toNat * frequency.toNat) (c := nanosPerSecond) (by decide)
    rw [← products] at quotients
    rw [toNat_cyclesOfNanos_of_not_isCut frequency whole,
      toNat_cyclesOfNanos_of_not_isCut frequency (not_isCut_of_le frequency later whole),
      toNat_cyclesOfNanos_of_not_isCut frequency (not_isCut_of_le frequency shorter whole),
      quotients]
    split
    · exact .inr rfl
    · exact .inl rfl

end Counts

namespace Bench

variable (bench : Bench)

theorem host_le_perform (command : Command) :
    bench.host.now ≤ (bench.perform command).value.2.host.now := by
  cases command with
  | start | pause => exact UInt64.le_refl _
  | advance nanos => exact bench.host.le_advance nanos
  | moveTo nanos => exact bench.host.le_moveTo nanos
  | read index =>
      rw [perform]
      cases bench.clocks[index]? <;> exact UInt64.le_refl _

/-- Only a start command changes the clocks: it adds one behind those that exist. -/
theorem clocks_perform (command : Command) :
    (bench.perform command).value.2.clocks = bench.clocks ∨
      ∃ cpuFrequency counterFrequency, command = .start cpuFrequency counterFrequency ∧
        (bench.perform command).value.2.clocks =
          bench.clocks ++ [.startOn bench.host cpuFrequency counterFrequency] := by
  cases command with
  | start cpuFrequency counterFrequency =>
      exact .inr ⟨cpuFrequency, counterFrequency, rfl, rfl⟩
  | advance | moveTo | pause => exact .inl rfl
  | read index =>
      rw [perform]
      cases bench.clocks[index]? <;> exact .inl rfl

theorem clocks_prefix_perform (command : Command) :
    bench.clocks <+: (bench.perform command).value.2.clocks := by
  rcases bench.clocks_perform command with same | ⟨_, _, _, added⟩
  · rw [same]
  · rw [added]
    exact List.prefix_append _ _

theorem value_run_cons (command : Command) (commands : List Command) :
    (bench.run (command :: commands)).value =
      ((bench.perform command).value.1 ::
          ((bench.perform command).value.2.run commands).value.1,
        ((bench.perform command).value.2.run commands).value.2) := by
  simp [run]

theorem value_run_append (commands more : List Command) :
    (bench.run (commands ++ more)).value.2 =
      ((bench.run commands).value.2.run more).value.2 := by
  induction commands generalizing bench with
  | nil => rfl
  | cons command commands ih => rw [List.cons_append, value_run_cons, value_run_cons, ih]

/-- Later in a run the host shows no earlier time, and all clocks are still there. -/
theorem host_le_run (commands : List Command) :
    bench.host.now ≤ (bench.run commands).value.2.host.now := by
  induction commands generalizing bench with
  | nil => exact UInt64.le_refl _
  | cons command commands ih =>
      rw [value_run_cons]
      exact UInt64.le_trans (bench.host_le_perform command) (ih _)

theorem clocks_prefix_run (commands : List Command) :
    bench.clocks <+: (bench.run commands).value.2.clocks := by
  induction commands generalizing bench with
  | nil => exact List.prefix_refl _
  | cons command commands ih =>
      rw [value_run_cons]
      exact (bench.clocks_prefix_perform command).trans (ih _)

/-- The reading of the clock with the given index, if there is such a clock. -/
def reading? (index : Nat) : Option WallClock.Reading :=
  bench.clocks[index]?.map fun clock => clock.read bench.host

end Bench

section Runs

variable (start : UInt64) (commands : List Command)

/-- The bench at a moment of a run, which is the number of commands carried out. -/
def benchAt (moment : Nat) : Bench := ((Bench.ofStart start).run (commands.take moment)).value.2

def hostAt (moment : Nat) : UInt64 := (benchAt start commands moment).host.now

def readingAt? (index moment : Nat) : Option WallClock.Reading :=
  (benchAt start commands moment).reading? index

/-- The reply to the command that is carried out at a moment. -/
def replyAt? (moment : Nat) : Option Reply :=
  ((Bench.ofStart start).run commands).value.1[moment]?

/-- The command of the moment creates the clock with the given index. -/
structure Creates (index moment : Nat) (cpuFrequency counterFrequency : UInt32) : Prop where
  command : commands[moment]? = some (.start cpuFrequency counterFrequency)
  reply : replyAt? start commands moment = some (.started index)

variable {start commands}

theorem benchAt_succ {moment : Nat} {command : Command}
    (carried : commands[moment]? = some command) :
    benchAt start commands (moment + 1) =
      ((benchAt start commands moment).perform command).value.2 := by
  rw [benchAt, benchAt, List.take_add_one, carried, Bench.value_run_append]
  rfl

variable (start commands) in
theorem benchAt_of_le {earlier later : Nat} (ordered : earlier ≤ later) :
    ∃ between, benchAt start commands later =
      ((benchAt start commands earlier).run between).value.2 := by
  obtain ⟨between, split⟩ := List.take_prefix_take_left ordered (l := commands)
  exact ⟨between, by rw [benchAt, ← split, Bench.value_run_append, benchAt]⟩

theorem getElem?_replies (bench : Bench) (commands : List Command) (moment : Nat) :
    (bench.run commands).value.1[moment]? = commands[moment]?.map fun command =>
      ((bench.run (commands.take moment)).value.2.perform command).value.1 := by
  induction commands generalizing bench moment with
  | nil => rfl
  | cons command commands ih =>
      rw [Bench.value_run_cons]
      cases moment with
      | zero => rfl
      | succ moment =>
          rw [List.getElem?_cons_succ, List.getElem?_cons_succ, List.take_succ_cons,
            Bench.value_run_cons]
          exact ih _ moment

theorem replyAt?_eq (moment : Nat) :
    replyAt? start commands moment = commands[moment]?.map fun command =>
      ((benchAt start commands moment).perform command).value.1 :=
  getElem?_replies _ commands moment

variable (start commands) in
theorem hostAt_mono {earlier later : Nat} (ordered : earlier ≤ later) :
    hostAt start commands earlier ≤ hostAt start commands later := by
  obtain ⟨between, split⟩ := benchAt_of_le start commands ordered
  rw [hostAt, hostAt, split]
  exact Bench.host_le_run _ between

variable {index created moment : Nat} {cpuFrequency counterFrequency : UInt32}

theorem Creates.clocks_length
    (creates : Creates start commands index created cpuFrequency counterFrequency) :
    (benchAt start commands created).clocks.length = index := by
  have reply := creates.reply
  rw [replyAt?_eq, creates.command] at reply
  exact Reply.started.inj (Option.some.inj reply)

/-- A clock that was created stays, with the host time of its creation. -/
theorem Creates.clock_eq
    (creates : Creates start commands index created cpuFrequency counterFrequency)
    (after : created < moment) :
    (benchAt start commands moment).clocks[index]? =
      some ⟨hostAt start commands created, cpuFrequency, counterFrequency⟩ := by
  obtain ⟨between, split⟩ := benchAt_of_le start commands (Nat.succ_le_of_lt after)
  obtain ⟨rest, kept⟩ := (benchAt start commands (created + 1)).clocks_prefix_run between
  have added : (benchAt start commands (created + 1)).clocks =
      (benchAt start commands created).clocks ++
        [⟨hostAt start commands created, cpuFrequency, counterFrequency⟩] := by
    rw [benchAt_succ creates.command]
    rfl
  rw [split, ← kept, added, ← creates.clocks_length, List.append_assoc,
    List.getElem?_append_right (Nat.le_refl _), Nat.sub_self]
  rfl

/-- Every clock was created by an earlier command. -/
theorem exists_creates {clock : WallClock}
    (found : (benchAt start commands moment).clocks[index]? = some clock) :
    ∃ created < moment,
      Creates start commands index created clock.cpuFrequency clock.counterFrequency := by
  induction moment with
  | zero => cases found
  | succ moment ih =>
      cases carried : commands[moment]? with
      | none =>
          have allTaken : commands.take (moment + 1) = commands.take moment := by
            rw [List.take_add_one, carried, Option.toList_none, List.append_nil]
          rw [benchAt, allTaken] at found
          obtain ⟨created, before, creates⟩ := ih found
          exact ⟨created, Nat.lt_succ_of_lt before, creates⟩
      | some command =>
          rw [benchAt_succ carried] at found
          rcases (benchAt start commands moment).clocks_perform command with
            same | ⟨cpuFrequency, counterFrequency, rfl, added⟩
          · rw [same] at found
            obtain ⟨created, before, creates⟩ := ih found
            exact ⟨created, Nat.lt_succ_of_lt before, creates⟩
          · rw [added] at found
            rcases Nat.lt_or_ge index (benchAt start commands moment).clocks.length with
              old | new
            · rw [List.getElem?_append_left old] at found
              obtain ⟨created, before, creates⟩ := ih found
              exact ⟨created, Nat.lt_succ_of_lt before, creates⟩
            · rw [List.getElem?_append_right new, List.getElem?_singleton] at found
              split at found
              · cases found
                refine ⟨moment, Nat.lt_succ_self moment, carried, ?_⟩
                rw [replyAt?_eq, carried]
                have last : (benchAt start commands moment).clocks.length = index := by omega
                exact congrArg (fun index => some (Reply.started index)) last
              · cases found

/-- The elapsed time of a clock is the host time since its creation. -/
theorem Creates.readingAt?_eq
    (creates : Creates start commands index created cpuFrequency counterFrequency)
    (after : created < moment) :
    ∃ reading, readingAt? start commands index moment = some reading ∧
      reading.nanos = hostAt start commands moment - hostAt start commands created ∧
      reading.cpuCycles = cyclesOfNanos reading.nanos cpuFrequency ∧
      reading.counterCycles = cyclesOfNanos reading.nanos counterFrequency := by
  have found := creates.clock_eq after
  have ordered := hostAt_mono start commands (Nat.le_of_lt after)
  have elapsed (clock : WallClock) (started : clock.start = hostAt start commands created) :
      clock.elapsed (benchAt start commands moment).host =
        hostAt start commands moment - hostAt start commands created := by
    apply UInt64.toNat_inj.mp
    rw [WallClock.toNat_elapsed, UInt64.toNat_sub_of_le _ _ ordered, started]
    rfl
  rw [readingAt?, Bench.reading?, found]
  exact ⟨_, rfl, elapsed _ rfl, rfl, rfl⟩

/-- A read is answered with the reading of its moment. -/
theorem replyAt?_read {reading : WallClock.Reading}
    (carried : commands[moment]? = some (.read index)) :
    readingAt? start commands index moment = some reading ↔
      ∃ clock, replyAt? start commands moment = some (.reading clock reading) := by
  rw [replyAt?_eq, carried, readingAt?, Bench.reading?]
  cases found : (benchAt start commands moment).clocks[index]? with
  | none => simp [Bench.perform, found]
  | some clock => simp [Bench.perform, found]

/-- What two moments of a run show of one clock, which the run creates before both. -/
theorem Creates.exists_readings
    (creates : Creates start commands index created cpuFrequency counterFrequency)
    {earlier later : Nat} (after : created < earlier) (ordered : earlier ≤ later) :
    ∃ first second, readingAt? start commands index earlier = some first ∧
      readingAt? start commands index later = some second ∧
      first.nanos = hostAt start commands earlier - hostAt start commands created ∧
      second.nanos = hostAt start commands later - hostAt start commands created ∧
      first.nanos ≤ second.nanos ∧
      CountFollows cpuFrequency first.nanos second.nanos first.cpuCycles second.cpuCycles ∧
      CountFollows counterFrequency first.nanos second.nanos first.counterCycles
        second.counterCycles := by
  obtain ⟨first, firstAt, firstNanos, firstCpu, firstCounter⟩ := creates.readingAt?_eq after
  obtain ⟨second, secondAt, secondNanos, secondCpu, secondCounter⟩ :=
    creates.readingAt?_eq (Nat.lt_of_lt_of_le after ordered)
  have begun := hostAt_mono start commands (Nat.le_of_lt after)
  have passed := hostAt_mono start commands ordered
  have monotone : first.nanos ≤ second.nanos := by
    rw [firstNanos, secondNanos, UInt64.le_iff_toNat_le, UInt64.toNat_sub_of_le _ _ begun,
      UInt64.toNat_sub_of_le _ _ (UInt64.le_trans begun passed)]
    exact Nat.sub_le_sub_right (UInt64.le_iff_toNat_le.mp passed) _
  refine ⟨first, second, firstAt, secondAt, firstNanos, secondNanos, monotone, ?_, ?_⟩
  · rw [firstCpu, secondCpu]
    exact countFollows_cyclesOfNanos cpuFrequency monotone
  · rw [firstCounter, secondCounter]
    exact countFollows_cyclesOfNanos counterFrequency monotone

/-- Two clocks that both exist keep the difference of their elapsed times. -/
theorem Creates.difference_eq {other otherCreated : Nat}
    {otherCpuFrequency otherCounterFrequency : UInt32}
    (creates : Creates start commands index created cpuFrequency counterFrequency)
    (otherCreates : Creates start commands other otherCreated otherCpuFrequency
      otherCounterFrequency)
    {moment : Nat} (after : created < moment) (otherAfter : otherCreated < moment)
    {reading otherReading : WallClock.Reading}
    (readingAt : readingAt? start commands index moment = some reading)
    (otherAt : readingAt? start commands other moment = some otherReading) :
    (reading.nanos.toNat : Int) - otherReading.nanos.toNat =
      (hostAt start commands otherCreated).toNat - (hostAt start commands created).toNat := by
  obtain ⟨same, sameAt, nanos, _⟩ := creates.readingAt?_eq after
  obtain ⟨otherSame, otherSameAt, otherNanos, _⟩ := otherCreates.readingAt?_eq otherAfter
  have begun := hostAt_mono start commands (Nat.le_of_lt after)
  have otherBegun := hostAt_mono start commands (Nat.le_of_lt otherAfter)
  rw [readingAt] at sameAt
  rw [otherAt] at otherSameAt
  cases sameAt
  cases otherSameAt
  rw [nanos, otherNanos, UInt64.toNat_sub_of_le _ _ begun,
    UInt64.toNat_sub_of_le _ _ otherBegun]
  rw [UInt64.le_iff_toNat_le] at begun otherBegun
  omega

end Runs

/-- In every run host time never decreases, and a read is answered with the reading of its
moment.  From its creation on every clock has a reading: the elapsed time is the host time
since the creation, neither it nor a count decreases, a count that is not cut grows by the
cycles of the time between two readings or by one more, and the elapsed times of two clocks
keep their difference. -/
theorem readings_along_run (start : UInt64) (commands : List Command) :
    (∀ earlier later, earlier ≤ later →
      hostAt start commands earlier ≤ hostAt start commands later) ∧
    (∀ index moment reading, commands[moment]? = some (.read index) →
      (readingAt? start commands index moment = some reading ↔
        ∃ clock, replyAt? start commands moment = some (.reading clock reading))) ∧
    (∀ index moment reading, readingAt? start commands index moment = some reading →
      ∃ created < moment, ∃ cpuFrequency counterFrequency,
        Creates start commands index created cpuFrequency counterFrequency) ∧
    ∀ index created cpuFrequency counterFrequency,
      Creates start commands index created cpuFrequency counterFrequency →
      ∀ earlier later, created < earlier → earlier ≤ later →
        ∃ first second, readingAt? start commands index earlier = some first ∧
          readingAt? start commands index later = some second ∧
          first.nanos = hostAt start commands earlier - hostAt start commands created ∧
          second.nanos = hostAt start commands later - hostAt start commands created ∧
          first.nanos ≤ second.nanos ∧
          CountFollows cpuFrequency first.nanos second.nanos first.cpuCycles second.cpuCycles ∧
          CountFollows counterFrequency first.nanos second.nanos first.counterCycles
            second.counterCycles ∧
          ∀ other otherFirst, readingAt? start commands other earlier = some otherFirst →
            ∃ otherSecond, readingAt? start commands other later = some otherSecond ∧
              (second.nanos.toNat : Int) - otherSecond.nanos.toNat =
                first.nanos.toNat - otherFirst.nanos.toNat := by
  have exists_created : ∀ index moment reading,
      readingAt? start commands index moment = some reading →
      ∃ created < moment, ∃ cpuFrequency counterFrequency,
        Creates start commands index created cpuFrequency counterFrequency := by
    intro index moment reading shown
    obtain ⟨clock, found, _⟩ := Option.map_eq_some_iff.mp shown
    obtain ⟨created, before, creates⟩ := exists_creates found
    exact ⟨created, before, _, _, creates⟩
  refine ⟨fun _ _ => hostAt_mono start commands, fun _ _ _ => replyAt?_read, exists_created, ?_⟩
  intro index created cpuFrequency counterFrequency creates earlier later after ordered
  obtain ⟨first, second, firstAt, secondAt, firstNanos, secondNanos, monotone, cpu, counter⟩ :=
    creates.exists_readings after ordered
  refine ⟨first, second, firstAt, secondAt, firstNanos, secondNanos, monotone, cpu, counter, ?_⟩
  intro other otherFirst otherFirstAt
  obtain ⟨otherCreated, otherAfter, _, _, otherCreates⟩ := exists_created _ _ _ otherFirstAt
  obtain ⟨otherSecond, otherSecondAt, _⟩ :=
    otherCreates.readingAt?_eq (Nat.lt_of_lt_of_le otherAfter ordered)
  refine ⟨otherSecond, otherSecondAt, ?_⟩
  have atFirst := creates.difference_eq otherCreates after otherAfter firstAt otherFirstAt
  have atSecond := creates.difference_eq otherCreates (Nat.lt_of_lt_of_le after ordered)
    (Nat.lt_of_lt_of_le otherAfter ordered) secondAt otherSecondAt
  exact atSecond.trans atFirst.symm

/-- A run that pauses a clock, sets the host back in vain, and starts a second clock. -/
def pausedRun : List Command :=
  [.start 1000000000 3, .advance 7, .start 5 5, .pause 0 true, .advance 5, .moveTo 3, .read 0]

/-- The first clock of that run is read at seven and twelve nanoseconds, five cycles apart. -/
theorem readings_along_pausedRun :
    Creates 100 pausedRun 0 0 1000000000 3 ∧
      ∃ first second, readingAt? 100 pausedRun 0 3 = some first ∧
        readingAt? 100 pausedRun 0 6 = some second ∧ first.nanos = 7 ∧ second.nanos = 12 ∧
        (second.cpuCycles.toNat = first.cpuCycles.toNat + 5 ∨
          second.cpuCycles.toNat = first.cpuCycles.toNat + 5 + 1) := by
  have creates : Creates 100 pausedRun 0 0 1000000000 3 := ⟨rfl, by decide +kernel⟩
  have atStart : hostAt 100 pausedRun 0 = 100 := by decide +kernel
  have atFirst : hostAt 100 pausedRun 3 = 107 := by decide +kernel
  have atSecond : hostAt 100 pausedRun 6 = 112 := by decide +kernel
  obtain ⟨first, second, firstAt, secondAt, firstNanos, secondNanos, -, cpu, -⟩ :=
    (readings_along_run 100 pausedRun).2.2.2 0 0 1000000000 3 creates 3 6 (by decide) (by decide)
  rw [atFirst, atStart] at firstNanos
  rw [atSecond, atStart] at secondNanos
  refine ⟨creates, first, second, firstAt, secondAt, firstNanos, secondNanos, ?_⟩
  have growth := cpu.growth
  rw [firstNanos, secondNanos] at growth
  exact growth (by unfold IsCut; decide)

end PadCapture.Clock
