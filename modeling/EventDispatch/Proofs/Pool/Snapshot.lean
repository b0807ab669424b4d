import EventDispatch.Proofs.Pool.Shutdown
import Mathlib.Data.List.Perm.Subperm

namespace EventDispatch

variable {h : Host} {α β : Type} {app : Application h} {a : Actor} {t : Thread}

namespace Machine

variable {m m' : Machine h α}

/-- A thread takes every turn for which it need not wait. -/
theorem turn_of_ready (app : Application h) {o : Op h} {next : o.Answer → Program h β}
    (before : m.running? a = some ⟨β, t, .perform o next⟩) (ready : m.world.isReady t o) :
    ∃ m', m.turn app a = some m' := by
  cases a with
  | caller n =>
    obtain ⟨⟨t', p⟩, slot, same⟩ := Option.map_eq_some_iff.1 before
    cases same
    simp only [Machine.turn, callerTurn, slot, Option.bind_eq_bind, Option.bind_some, Program.step,
      if_pos ready]
    exact ⟨_, rfl⟩
  | errand n =>
    obtain ⟨p, slot, same⟩ := Option.map_eq_some_iff.1 before
    cases same
    have slot := Option.join_eq_some_iff.1 slot
    simp only [Machine.turn, errandTurn, slot, Option.bind_eq_bind, Option.bind_some, finishErrand,
      Program.step, if_pos ready]
    exact ⟨_, rfl⟩
  | worker n =>
    obtain ⟨p, slot, same⟩ := Option.map_eq_some_iff.1 before
    cases same
    have slot := Option.join_eq_some_iff.1 slot
    simp only [Machine.turn, workerTurn, slot, Option.bind_eq_bind, Option.bind_some, finishJob,
      Program.step, if_pos ready]
    exact ⟨_, rfl⟩

theorem Turned.goes_on {o : Op h} {o' : Occurrence h} {next : o.Answer → Program h β}
    (turned : Turned app m a m' o') (before : m.running? a = some ⟨β, t, .perform o next⟩) :
    m'.running? a = some ⟨β, t, next (m.world.answer t o).1⟩ := by
  cases turned with
  | performed before' after world ready =>
    rw [before] at before'
    cases before'
    exact after
  | called before' after world =>
    rw [before] at before'
    cases before'
  | took actor before' take after world =>
    rw [before] at before'
    cases before'
  | ended before' finished after world =>
    rw [before] at before'
    cases before'
    exact finished.elim

theorem Others.running (others : m.Others app a m') {b : Actor} (other : b ≠ a) {r : Running h}
    (running : m.running? b = some r) : m'.running? b = some r := by
  rcases others b other with same | ⟨none, -⟩
  · exact same.trans running
  · rw [none] at running
    cases running

end Machine

abbrev Interlude (a : Actor) := {actors : List Actor // a ∉ actors}

namespace Course

variable {s : Course h α}

/-- Others leave a thread where it is. -/
theorem running?_interlude (app : Application h) (i : Interlude a) {r : Running h}
    (running : s.machine.running? a = some r) : (s.after app i).machine.running? a = some r := by
  obtain ⟨actors, apart⟩ := i
  show (s.after app actors).machine.running? a = some r
  induction actors generalizing s with
  | nil => exact running
  | cons b rest ih =>
    obtain ⟨other, apart⟩ := List.ne_and_not_mem_of_not_mem_cons apart
    refine @ih (move app s (.turn b)) ?_ apart
    rcases move_turn (a := b) with same | ⟨m, o, moved, -, others⟩
    · rw [same]
      exact running
    · rw [moved]
      exact others.running other running

/-- A counter is read at once. -/
theorem running?_read (app : Application h) (i : Interlude a) {k : Counter} {next : Nat → Program h β}
    (reads : s.machine.running? a = some ⟨β, t, .perform (.readTally k) next⟩) :
    (s.after app (a :: i)).machine.running? a = some ⟨β, t, next (s.world.pool.stats.read k)⟩ := by
  obtain ⟨m, turn⟩ := Machine.turn_of_ready app reads rfl
  refine running?_interlude (s := move app s (.turn a)) app i ?_
  simp only [move, turn]
  obtain ⟨⟨o, -, turned⟩, -⟩ := Machine.turn_turned turn
  exact turned.goes_on reads

end Course

/-- What other threads do before each of the four reads of a snapshot that thread `a` takes. -/
structure Meanwhile (a : Actor) where
  first : Interlude a
  second : Interlude a
  third : Interlude a
  fourth : Interlude a

namespace Meanwhile

variable (i : Meanwhile a) (app : Application h) (s : Course h α)

def atSubmitted : Course h α := s.after app i.first

def atCompleted : Course h α := (i.atSubmitted app s).after app (a :: i.second)

def atPanicked : Course h α := (i.atCompleted app s).after app (a :: i.third)

def atRejected : Course h α := (i.atPanicked app s).after app (a :: i.fourth)

def atEnd : Course h α := (i.atRejected app s).after app [a]

def snapshot : PoolStats where
  submitted := (i.atSubmitted app s).world.pool.stats.submitted
  completed := (i.atCompleted app s).world.pool.stats.completed
  panicked := (i.atPanicked app s).world.pool.stats.panicked
  rejected := (i.atRejected app s).world.pool.stats.rejected

variable {s}

/-- The thread goes on with the counters as they were when it read them. -/
theorem running?_atEnd {next : PoolStats → Program h β}
    (asks : s.machine.running? a = some ⟨β, t, Control.stats.bind next⟩) :
    (i.atEnd app s).machine.running? a = some ⟨β, t, next (i.snapshot app s)⟩ := by
  have first := Course.running?_interlude app i.first asks
  have second := Course.running?_read app i.second first
  have third := Course.running?_read app i.third second
  have fourth := Course.running?_read app i.fourth third
  exact Course.running?_read app ⟨[], List.not_mem_nil⟩ fourth

end Meanwhile

/-- Of numbers that are all different, at most `n` are smaller than `n`. -/
theorem length_le_add_filter {l : List Nat} (distinct : l.Nodup) (n : Nat) :
    l.length ≤ n + (l.filter (n ≤ ·)).length := by
  have below : (l.filter fun place => !decide (n ≤ place)) ⊆ List.range n := by
    intro place mem
    simpa using (List.mem_filter.1 mem).2
  have few := (List.subperm_of_subset (distinct.filter _) below).length_le
  rw [List.length_range] at few
  rw [List.length_eq_length_filter_add (n ≤ ·)]
  omega

namespace Course

variable {c : Config} {s : Course h α}

def Uncounted (s : Course h α) : Prop :=
  ∃ a job before, Lately a (.performed (.enqueue job) (.ok ())) before s.history

theorem exists_accepted_iff : (∃ a, s.inventory.stage a = .accepted) ↔ s.Uncounted := by
  constructor
  · rintro ⟨a, accepted⟩
    obtain ⟨o, before, lately, after⟩ := Roll.lately_of_stage accepted (by decide)
    obtain ⟨job, rfl⟩ := Stage.eq_of_after_accepted after
    exact ⟨a, job, before, lately⟩
  · rintro ⟨a, job, before, lately⟩
    exact ⟨a, Roll.stage_of_lately lately⟩

theorem staffed_run (app : Application h) (c : Config) (publisher : Option Publisher) (host : h.State)
    (scripts : List (Thread × Script h α)) (foreign : ∀ x ∈ scripts, World.workerOf x.1 = none)
    (actors : List Actor) : Staffed c (run app c publisher host scripts (actors.map .turn)) :=
  run_turns_induct app (.start c publisher host scripts foreign app)
    (fun _ _ _ _ turn turned others staffed => staffed.turned turn turned others) actors

theorem Staffed.after (staffed : s.Staffed c) (actors : List Actor) : (s.after app actors).Staffed c :=
  after_induct (fun _ _ _ _ turn turned others staffed => staffed.turned turn turned others) staffed
    actors

/-- No count of ended jobs ever goes down. -/
theorem Staffed.completed_le_after (staffed : s.Staffed c) (actors : List Actor) :
    s.world.pool.stats.completed ≤ (s.after app actors).world.pool.stats.completed := by
  refine (after_induct (I := fun s' : Course h α => s'.Staffed c ∧
    s.world.pool.stats.completed ≤ s'.world.pool.stats.completed) ?_ ⟨staffed, le_rfl⟩ actors).2
  intro s' a m o turn turned others ⟨staffed, grown⟩
  have deed := inventory_deed staffed.keeps staffed.manned turned
  exact ⟨staffed.turned turn turned others, grown.trans deed.completed_le⟩

/-- How a snapshot stands to the jobs when its submitted ones were read at `first`, and its panicked ones
at `third`. -/
structure Reckoned (stats : PoolStats) (first third : Course h α) : Prop where
  submitted : stats.submitted ≤ first.roll.accepted.length ∧
    first.roll.accepted.length ≤ stats.submitted + 1
  /-- At most the job that was queued last is missing, while its thread has yet to count it. -/
  complete : ¬first.Uncounted → stats.submitted = first.roll.accepted.length
  ended : stats.completed + stats.panicked ≤ third.roll.finished.length
  accepted : ∀ place ∈ third.roll.finished, place < third.roll.accepted.length
  /-- The ended jobs exceed the submitted ones by no more than those that had yet to be counted. -/
  ahead : stats.completed + stats.panicked ≤
    stats.submitted + (third.roll.finished.filter (stats.submitted ≤ ·)).length
  level : (∀ place ∈ third.roll.finished, place < stats.submitted) →
    stats.completed + stats.panicked ≤ stats.submitted
  /-- As when every queued job was counted and none has ended since. -/
  calm : ¬first.Uncounted → third.roll.finished = first.roll.finished →
    stats.completed + stats.panicked ≤ stats.submitted

theorem Staffed.submitted (staffed : s.Staffed c) :
    (s.world.pool.stats.submitted ≤ s.roll.accepted.length ∧
      s.roll.accepted.length ≤ s.world.pool.stats.submitted + 1) ∧
    (¬s.Uncounted → s.world.pool.stats.submitted = s.roll.accepted.length) := by
  have counted := staffed.counted
  have complete (none : ¬s.Uncounted) : s.world.pool.stats.submitted = s.roll.accepted.length :=
    counted.all_counted fun a accepted => none (exists_accepted_iff.1 ⟨a, accepted⟩)
  refine ⟨?_, complete⟩
  by_cases uncounted : s.Uncounted
  · obtain ⟨a, accepted⟩ := exists_accepted_iff.2 uncounted
    have behind : s.world.pool.stats.submitted + 1 = s.roll.accepted.length :=
      counted.one_behind a accepted
    omega
  · have complete := complete uncounted
    omega

theorem Staffed.reckoned (staffed : s.Staffed c) (i : Meanwhile a) :
    Reckoned (i.snapshot app s) (i.atSubmitted app s) (i.atPanicked app s) := by
  have first : (i.atSubmitted app s).Staffed c := staffed.after _
  have second : (i.atCompleted app s).Staffed c := first.after _
  have third : (i.atPanicked app s).Staffed c := second.after _
  obtain ⟨submitted, complete⟩ := first.submitted
  have distinct : (i.atPanicked app s).roll.finished.Nodup := third.conserved.finished_nodup
  have ended : (i.snapshot app s).completed + (i.snapshot app s).panicked ≤
      (i.atPanicked app s).roll.finished.length :=
    calc (i.atCompleted app s).world.pool.stats.completed + (i.atPanicked app s).world.pool.stats.panicked
      _ ≤ (i.atPanicked app s).world.pool.stats.completed +
          (i.atPanicked app s).world.pool.stats.panicked :=
        Nat.add_le_add_right (second.completed_le_after _) _
      _ = (i.atPanicked app s).roll.finished.length := third.conserved.ended
  have ahead := ended.trans (length_le_add_filter distinct (i.snapshot app s).submitted)
  have level (counted : ∀ place ∈ (i.atPanicked app s).roll.finished,
      place < (i.snapshot app s).submitted) :
      (i.snapshot app s).completed + (i.snapshot app s).panicked ≤ (i.snapshot app s).submitted := by
    have none : (i.atPanicked app s).roll.finished.filter ((i.snapshot app s).submitted ≤ ·) = [] :=
      List.filter_eq_nil_iff.2 fun place mem => by simpa using counted place mem
    rwa [none, List.length_nil, Nat.add_zero] at ahead
  exact {
    submitted, complete, ended, ahead, level
    accepted := fun place => third.conserved.lt_of_mem_finished
    calm := fun counted still => level fun place mem => by
      rw [still] at mem
      have place := first.conserved.lt_of_mem_finished mem
      exact (complete counted).symm ▸ place }

/-- Whatever the settings, the application and its callers, and in whatever order threads take turns
before a snapshot and between its reads. -/
theorem snapshot_reckoned (app : Application h) (c : Config) (publisher : Option Publisher)
    (host : h.State) (scripts : List (Thread × Script h α))
    (foreign : ∀ x ∈ scripts, World.workerOf x.1 = none) (actors : List Actor)
    (led : s = run app c publisher host scripts (actors.map .turn)) {next : PoolStats → Program h β}
    (asks : s.machine.running? a = some ⟨β, t, Control.stats.bind next⟩) (i : Meanwhile a) :
    (i.atEnd app s).machine.running? a = some ⟨β, t, next (i.snapshot app s)⟩ ∧
      Reckoned (i.snapshot app s) (i.atSubmitted app s) (i.atPanicked app s) := by
  subst led
  exact ⟨i.running?_atEnd app asks, (staffed_run app c publisher host scripts foreign actors).reckoned i⟩

def sounding : Thread × Script alarmHost PoolStats :=
  (.main, do
    let _ ← Script.ask (.subscribe "n" (.plain ()) ⟨0, true, false⟩)
    alarm
    Script.ask .stats)

def inquiring : Thread × Script alarmHost PoolStats := (.main, Script.ask .stats)

/-- The sender has taken so many turns: after 8 it has yet to queue its job, and after 9 to count it. -/
def sounded (turns : Nat) : Course alarmHost PoolStats :=
  run alarmed narrow none () [sounding, inquiring] ((List.replicate turns (.caller 0)).map .turn)

theorem sounded_inquiring (turns : Nat) : (sounded turns).machine.running? (.caller 1) =
    some ⟨PoolStats, .main, Control.stats.bind .done⟩ :=
  running?_interlude alarmed
    ⟨List.replicate turns (.caller 0), fun mem => by cases List.eq_of_mem_replicate mem⟩ rfl

/-- The job panics before it is counted, and then the counters are read. -/
def hasty : Meanwhile (.caller 1) where
  first := ⟨List.replicate 3 (.worker 0), by decide⟩
  second := ⟨[], by decide⟩
  third := ⟨[], by decide⟩
  fourth := ⟨[], by decide⟩

/-- After the first counter is read, the job is queued and counted and panics. -/
def overtaken : Meanwhile (.caller 1) where
  first := ⟨[], by decide⟩
  second := ⟨List.replicate 2 (.caller 0) ++ List.replicate 3 (.worker 0), by decide⟩
  third := ⟨[], by decide⟩
  fourth := ⟨[], by decide⟩

/-- Either way the snapshot has a job that panicked, and none that was submitted. -/
theorem snapshots_run_ahead :
    (hasty.atEnd alarmed (sounded 9)).machine.running? (.caller 1) =
        some ⟨PoolStats, .main, .done ⟨0, 0, 1, 0⟩⟩ ∧
      (overtaken.atEnd alarmed (sounded 8)).machine.running? (.caller 1) =
        some ⟨PoolStats, .main, .done ⟨0, 0, 1, 0⟩⟩ ∧
      ¬(⟨0, 0, 1, 0⟩ : PoolStats).completed + (⟨0, 0, 1, 0⟩ : PoolStats).panicked ≤
        (⟨0, 0, 1, 0⟩ : PoolStats).submitted := by
  have early : hasty.snapshot alarmed (sounded 9) = ⟨0, 0, 1, 0⟩ := by decide +kernel
  have late : overtaken.snapshot alarmed (sounded 8) = ⟨0, 0, 1, 0⟩ := by decide +kernel
  refine ⟨?_, ?_, by decide⟩
  · rw [← early]
    exact hasty.running?_atEnd alarmed (sounded_inquiring 9)
  · rw [← late]
    exact overtaken.running?_atEnd alarmed (sounded_inquiring 8)

theorem overtaken_reckoned :
    (∀ x ∈ [sounding, inquiring], World.workerOf x.1 = none) ∧
      overtaken.snapshot alarmed (sounded 8) = ⟨0, 0, 1, 0⟩ ∧
      (overtaken.atEnd alarmed (sounded 8)).machine.running? (.caller 1) =
        some ⟨PoolStats, .main, .done (overtaken.snapshot alarmed (sounded 8))⟩ ∧
      Reckoned (overtaken.snapshot alarmed (sounded 8)) (overtaken.atSubmitted alarmed (sounded 8))
        (overtaken.atPanicked alarmed (sounded 8)) := by
  have foreign : ∀ x ∈ [sounding, inquiring], World.workerOf x.1 = none := by decide
  have stats : overtaken.snapshot alarmed (sounded 8) = ⟨0, 0, 1, 0⟩ := by decide +kernel
  exact ⟨foreign, stats, snapshot_reckoned alarmed narrow none () [sounding, inquiring] foreign
    (List.replicate 8 (.caller 0)) rfl (sounded_inquiring 8) overtaken⟩

end Course
end EventDispatch
