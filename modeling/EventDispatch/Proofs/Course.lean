import EventDispatch.Dispatch.Machine
import EventDispatch.Dispatch.Start
import EventDispatch.Proofs.Protocol
import Mathlib.Logic.Function.Basic

namespace EventDispatch

variable {h : Host} {α σ : Type}

def Program.IsOver : Program h α → Prop
  | .done _ => True
  | .panic _ => True
  | .perform _ _ => False
  | .call _ _ => False

structure Running (h : Host) where
  Result : Type
  thread : Thread
  program : Program h Result

namespace Machine

def running? (m : Machine h α) : Actor → Option (Running h)
  | .caller n => (m.callers[n]?).map fun c => ⟨α, c.1, c.2⟩
  | .errand n => (m.errands[n]?).join.map fun p => ⟨h.Result, .errand n, p⟩
  | .worker n => (m.workers[n]?).join.map fun p => ⟨Unit, .worker n, p⟩

def occurrence? (m : Machine h α) (a : Actor) : Option (Occurrence h) :=
  match m.running? a, a with
  | some ⟨_, _, .done _⟩, _ => some .ended
  | some ⟨_, _, .panic _⟩, _ => some .ended
  | some ⟨_, t, .perform o _⟩, _ => some (.performed o (m.world.answer t o).1)
  | some ⟨_, _, .call c _⟩, _ => some (.called c)
  | none, .worker n => (m.world.pool.take n).map fun t => .took t.1
  | none, _ => none

/-- The threads other than `a` go on as they were, and errands that were just sent begin. -/
def Others (app : Application h) (m : Machine h α) (a : Actor) (m' : Machine h α) : Prop :=
  ∀ b, b ≠ a → m'.running? b = m.running? b ∨
    m.running? b = none ∧ ∃ n e, b = .errand n ∧
      m'.running? b = some ⟨_, .errand n, (app.run e).program⟩

/-- All that a turn of `a` can be. -/
inductive Turned (app : Application h) (m : Machine h α) (a : Actor) (m' : Machine h α) :
    Occurrence h → Prop where
  | performed {β : Type} {t : Thread} {o : Op h} {next : o.Answer → Program h β}
      (before : m.running? a = some ⟨β, t, .perform o next⟩)
      (after : m'.running? a = some ⟨β, t, next (m.world.answer t o).1⟩)
      (world : m'.world = (m.world.answer t o).2) (ready : m.world.isReady t o) :
      Turned app m a m' (.performed o (m.world.answer t o).1)
  | called {β : Type} {t : Thread} {c : Call h} {next : ListenerResult → Program h β}
      (before : m.running? a = some ⟨β, t, .call c next⟩)
      (after : m'.running? a = some ⟨β, t, (app.body c).bind next⟩)
      (world : m'.world = m.world) :
      Turned app m a m' (.called c)
  | took {n : Nat} {job : Job h} {pool : Pool h} (actor : a = .worker n)
      (before : m.running? a = none) (take : m.world.pool.take n = some (job, pool))
      (after : m'.running? a = some ⟨Unit, .worker n, job.program⟩)
      (world : m'.world = { m.world with pool }) :
      Turned app m a m' (.took job)
  | ended {r : Running h} (before : m.running? a = some r) (finished : r.program.IsOver)
      (after : m'.running? a = none)
      (world : (∃ n p, a = .errand n ∧ finishErrand m.world n p = some m'.world) ∨
        ∃ n p, a = .worker n ∧ r = ⟨Unit, .worker n, p⟩ ∧
          finishJob m.world n p = some m'.world) :
      Turned app m a m' .ended

variable {app : Application h} {m m' : Machine h α}

theorem running?_enter (m : Machine h α) (w : World h) (b : Actor) :
    (m.enter app w).running? b = m.running? b ∨
      m.running? b = none ∧ ∃ n e, b = .errand n ∧
        (m.enter app w).running? b = some ⟨_, .errand n, (app.run e).program⟩ := by
  cases b with
  | caller n => exact .inl rfl
  | worker n => exact .inl rfl
  | errand n =>
    simp only [running?, enter]
    by_cases hn : n < m.errands.length
    · exact .inl (by rw [List.getElem?_append_left hn])
    · -- Past those that run already stand the ones that `w` has sent since.
      rw [List.getElem?_append_right (by omega), List.getElem?_eq_none (by omega : _ ≤ n),
        List.getElem?_map]
      cases (w.errands.drop m.errands.length)[n - m.errands.length]? with
      | none => exact .inl rfl
      | some e => exact .inr ⟨rfl, n, e, rfl, rfl⟩

theorem running?_enter_of_some {w : World h} {b : Actor} {r : Running h}
    (hr : m.running? b = some r) : (m.enter app w).running? b = some r := by
  rcases running?_enter m w b with hb | ⟨hb, -⟩
  · exact hb.trans hr
  · rw [hb] at hr
    cases hr

def Apart (m : Machine h α) (a : Actor) (m' : Machine h α) : Prop :=
  ∀ b, b ≠ a → m'.running? b = m.running? b

theorem Apart.others {a : Actor} (hm : m.Apart a m') : m.Others app a m' :=
  fun b hb => .inl (hm b hb)

theorem Apart.enter {a : Actor} (hm : m.Apart a m') (w : World h) :
    m.Others app a (m'.enter app w) := by
  intro b hb
  rw [← hm b hb]
  exact running?_enter m' w b

theorem apart_callers (m : Machine h α) (n : Nat) (w : World h) (c : Thread × Program h α) :
    m.Apart (.caller n) { m with world := w, callers := m.callers.set n c } := by
  intro b hb
  cases b with
  | caller k =>
    have hk : n ≠ k := fun e => hb (by rw [e])
    simp only [running?, List.getElem?_set_ne hk]
  | errand k => rfl
  | worker k => rfl

theorem apart_errands (m : Machine h α) (n : Nat) (w : World h)
    (p : Option (Program h h.Result)) :
    m.Apart (.errand n) { m with world := w, errands := m.errands.set n p } := by
  intro b hb
  cases b with
  | caller k => rfl
  | errand k =>
    have hk : n ≠ k := fun e => hb (by rw [e])
    simp only [running?, List.getElem?_set_ne hk]
  | worker k => rfl

theorem apart_workers (m : Machine h α) (n : Nat) (w : World h) (p : Option (Program h Unit)) :
    m.Apart (.worker n) { m with world := w, workers := m.workers.set n p } := by
  intro b hb
  cases b with
  | caller k => rfl
  | errand k => rfl
  | worker k =>
    have hk : n ≠ k := fun e => hb (by rw [e])
    simp only [running?, List.getElem?_set_ne hk]

/-- One step of a thread's program is a turn of the machine. -/
theorem Turned.of_step {β : Type} {t : Thread} {p p' : Program h β} {w : World h} {a : Actor}
    (before : m.running? a = some ⟨β, t, p⟩) (hp : p.step app t m.world = some (p', w))
    (after : m'.running? a = some ⟨β, t, p'⟩) (world : m'.world = w) :
    ∃ o, m.occurrence? a = some o ∧ Turned app m a m' o := by
  cases p with
  | done b => cases hp
  | panic e => cases hp
  | perform o next =>
    simp only [Program.step] at hp
    split at hp
    · next ready =>
      cases hp
      exact ⟨_, by simp only [occurrence?, before], .performed before after world ready⟩
    · cases hp
  | call c next =>
    cases hp
    exact ⟨_, by simp only [occurrence?, before], .called before after world⟩

theorem callerTurn_turned {n : Nat} (ht : m.callerTurn app n = some m') :
    (∃ o, m.occurrence? (.caller n) = some o ∧ Turned app m (.caller n) m' o) ∧
      m.Others app (.caller n) m' := by
  simp only [callerTurn, Option.bind_eq_bind, Option.bind_eq_some_iff] at ht
  obtain ⟨⟨t, p⟩, hn, ⟨p', w⟩, hp, hm⟩ := ht
  cases hm
  have hlt : n < m.callers.length := (List.getElem?_eq_some_iff.1 hn).1
  have before : m.running? (.caller n) = some ⟨α, t, p⟩ := by
    simp only [running?, hn, Option.map_some]
  refine ⟨Turned.of_step before hp (running?_enter_of_some ?_) rfl, ?_⟩
  · simp only [running?, List.getElem?_set_self hlt, Option.map_some]
  · exact (apart_callers m n m.world (t, p')).enter w

theorem occurrence?_over {β : Type} {t : Thread} {p : Program h β} {a : Actor}
    (before : m.running? a = some ⟨β, t, p⟩) (finished : p.IsOver) :
    m.occurrence? a = some .ended := by
  cases p with
  | done b => simp only [occurrence?, before]
  | panic e => simp only [occurrence?, before]
  | perform o next => exact finished.elim
  | call c next => exact finished.elim

theorem isOver_of_finishErrand {w w' : World h} {n : Nat} {p : Program h h.Result}
    (hw : finishErrand w n p = some w') : p.IsOver := by
  cases p with
  | done b => trivial
  | panic e => trivial
  | perform o next => cases hw
  | call c next => cases hw

theorem isOver_of_finishJob {w w' : World h} {n : Nat} {p : Program h Unit}
    (hw : finishJob w n p = some w') : p.IsOver := by
  cases p with
  | done b => trivial
  | panic e => trivial
  | perform o next => cases hw
  | call c next => cases hw

/-- The end of an errand concerns what it returned. -/
theorem finishErrand_concerns {w w' : World h} {n : Nat} {p : Program h h.Result}
    (hw : finishErrand w n p = some w') : ∃ returned, w' = { w with returned } := by
  cases p with
  | done b => cases hw; exact ⟨_, rfl⟩
  | panic e => cases hw; exact ⟨_, rfl⟩
  | perform o next => cases hw
  | call c next => cases hw

/-- The end of a job concerns the pool and the log. -/
theorem finishJob_concerns {w w' : World h} {n : Nat} {p : Program h Unit}
    (hw : finishJob w n p = some w') : ∃ c trail, (c = .completed ∨ c = .panicked) ∧
      w' = { w with pool := w.pool.finish n c, trail } := by
  cases p with
  | done b => cases hw; exact ⟨.completed, _, .inl rfl, rfl⟩
  | panic e => cases hw; exact ⟨.panicked, _, .inr rfl, rfl⟩
  | perform o next => cases hw
  | call c next => cases hw

/-- A thread that ends tells the pool, the log, or who fetches its result. -/
theorem ended_concerns {w w' : World h} {a : Actor} {r : Running h}
    (world : (∃ n p, a = .errand n ∧ finishErrand w n p = some w') ∨
      ∃ n p, a = .worker n ∧ r = ⟨Unit, .worker n, p⟩ ∧ finishJob w n p = some w') :
    ∃ pool trail returned, w' = { w with pool, trail, returned } := by
  rcases world with ⟨n, p, -, hw⟩ | ⟨n, p, -, -, hw⟩
  · obtain ⟨returned, rfl⟩ := finishErrand_concerns hw
    exact ⟨_, _, returned, rfl⟩
  · obtain ⟨c, trail, -, rfl⟩ := finishJob_concerns hw
    exact ⟨_, trail, _, rfl⟩

theorem errandTurn_turned {n : Nat} (ht : m.errandTurn app n = some m') :
    (∃ o, m.occurrence? (.errand n) = some o ∧ Turned app m (.errand n) m' o) ∧
      m.Others app (.errand n) m' := by
  simp only [errandTurn, Option.bind_eq_bind, Option.bind_eq_some_iff] at ht
  obtain ⟨_, hn, p, rfl, ht⟩ := ht
  have hlt : n < m.errands.length := (List.getElem?_eq_some_iff.1 hn).1
  have before : m.running? (.errand n) = some ⟨h.Result, .errand n, p⟩ := by
    simp only [running?, hn, Option.join_some, Option.map_some]
  split at ht
  · next w hw =>
    cases ht
    have finished := isOver_of_finishErrand hw
    have finishes := occurrence?_over before finished
    refine ⟨⟨.ended, finishes, .ended before finished ?_ (.inl ⟨n, p, rfl, hw⟩)⟩,
      (apart_errands m n w none).others⟩
    simp only [running?, List.getElem?_set_self hlt, Option.join_some, Option.map_none]
  · simp only [Option.bind_eq_some_iff] at ht
    obtain ⟨⟨p', w⟩, hp, hm⟩ := ht
    cases hm
    refine ⟨Turned.of_step before hp (running?_enter_of_some ?_) rfl, ?_⟩
    · simp only [running?, List.getElem?_set_self hlt, Option.join_some, Option.map_some]
    · exact (apart_errands m n m.world (some p')).enter w

theorem workerTurn_turned {n : Nat} (ht : m.workerTurn app n = some m') :
    (∃ o, m.occurrence? (.worker n) = some o ∧ Turned app m (.worker n) m' o) ∧
      m.Others app (.worker n) m' := by
  simp only [workerTurn, Option.bind_eq_bind, Option.bind_eq_some_iff] at ht
  obtain ⟨slot, hn, ht⟩ := ht
  have hlt : n < m.workers.length := (List.getElem?_eq_some_iff.1 hn).1
  cases slot with
  | none =>
    simp only [Option.bind_eq_some_iff] at ht
    obtain ⟨⟨job, pool⟩, take, hm⟩ := ht
    cases hm
    have before : m.running? (.worker n) = none := by
      simp only [running?, hn, Option.join_some, Option.map_none]
    refine ⟨⟨.took job, ?_, .took rfl before take ?_ rfl⟩, (apart_workers m n _ _).others⟩
    · simp only [occurrence?, before, take, Option.map_some]
    · simp only [running?, List.getElem?_set_self hlt, Option.join_some, Option.map_some]
  | some p =>
    have before : m.running? (.worker n) = some ⟨Unit, .worker n, p⟩ := by
      simp only [running?, hn, Option.join_some, Option.map_some]
    dsimp only at ht
    split at ht
    · next w hw =>
      cases ht
      have finished := isOver_of_finishJob hw
      have finishes := occurrence?_over before finished
      refine ⟨⟨.ended, finishes, .ended before finished ?_ (.inr ⟨n, p, rfl, rfl, hw⟩)⟩,
        (apart_workers m n w none).others⟩
      simp only [running?, List.getElem?_set_self hlt, Option.join_some, Option.map_none]
    · simp only [Option.bind_eq_some_iff] at ht
      obtain ⟨⟨p', w⟩, hp, hm⟩ := ht
      cases hm
      refine ⟨Turned.of_step before hp (running?_enter_of_some ?_) rfl, ?_⟩
      · simp only [running?, List.getElem?_set_self hlt, Option.join_some, Option.map_some]
      · exact (apart_workers m n m.world (some p')).enter w

/-- Every turn is one of the four kinds, and leaves all other threads alone. -/
theorem turn_turned {a : Actor} (ht : m.turn app a = some m') :
    (∃ o, m.occurrence? a = some o ∧ Turned app m a m' o) ∧ m.Others app a m' := by
  cases a with
  | caller n => exact callerTurn_turned ht
  | errand n => exact errandTurn_turned ht
  | worker n => exact workerTurn_turned ht

end Machine

/-- All that a dispatcher with this application runs keeps the protocol. -/
structure Protocol.Upheld (P : Protocol h σ) (app : Application h) : Prop where
  calm : P.Calm P.rest
  serves : P.Serves
  bodies : ∀ s c, P.MayCall s c →
    (app.body c).Keeps P (P.after s (.called c)) (P.Returns (P.after s (.called c)))
  jobs : ∀ job : Job h, job.program.Keeps P (P.after P.rest (.took job)) (P.Returns P.rest)

namespace Machine

variable {P : Protocol h σ} {app : Application h} {m m' : Machine h α} {stand : Actor → σ}
  {a : Actor}

def Keeps (P : Protocol h σ) (stand : Actor → σ) (m : Machine h α) : Prop :=
  ∀ a, (∀ r, m.running? a = some r → r.program.Keeps P (stand a) (P.Returns P.rest)) ∧
    (m.running? a = none → stand a = P.rest)

/-- The thread whose turn it is. -/
theorem Turned.keeps (hP : P.Upheld app) {o : Occurrence h} {s : σ} (ht : Turned app m a m' o)
    (answers : ∀ t o, P.Answers o (m.world.answer t o).1)
    (running : ∀ r, m.running? a = some r → r.program.Keeps P s (P.Returns P.rest))
    (resting : m.running? a = none → s = P.rest) :
    (∀ r, m'.running? a = some r → r.program.Keeps P (P.after s o) (P.Returns P.rest)) ∧
      (m'.running? a = none → P.after s o = P.rest) := by
  cases ht with
  | @performed β t o next before after world =>
    refine ⟨fun r hr => ?_, fun hn => by rw [after] at hn; cases hn⟩
    rw [after] at hr
    cases hr
    exact (running _ before).2 _ (answers t o)
  | @called β t c next before after world =>
    refine ⟨fun r hr => ?_, fun hn => by rw [after] at hn; cases hn⟩
    rw [after] at hr
    cases hr
    obtain ⟨may, rest⟩ := running _ before
    -- The body is put before what follows the call, which goes on from wherever the body ends.
    apply Program.keeps_bind.2
    exact Program.keeps_mono (hP.bodies s c may) fun u x hu => rest u hu x
  | took actor before take after world =>
    refine ⟨fun r hr => ?_, fun hn => by rw [after] at hn; cases hn⟩
    rw [after] at hr
    cases hr
    rw [resting before]
    exact hP.jobs _
  | ended before finished after world =>
    refine ⟨fun r hr => ?_, fun _ => P.after_ended s⟩
    rw [after] at hr
    cases hr

/-- A turn moves its own thread on, and the protocol goes on holding for all. -/
theorem Keeps.turn (hP : P.Upheld app) (hm : m.Keeps P stand) {o : Occurrence h}
    (ht : Turned app m a m' o) (others : m.Others app a m')
    (answers : ∀ t o, P.Answers o (m.world.answer t o).1) :
    m'.Keeps P (Function.update stand a (P.after (stand a) o)) := by
  intro b
  by_cases hb : b = a
  · subst hb
    rw [Function.update_self]
    exact ht.keeps hP answers (hm b).1 (hm b).2
  · rw [Function.update_of_ne hb]
    rcases others b hb with same | ⟨none, n, e, -, new⟩
    · rw [same]
      exact hm b
    · -- An errand that was sent in this turn begins where nothing had to be done.
      rw [new, (hm b).2 none]
      refine ⟨fun r hr => ?_, fun hn => by cases hn⟩
      cases hr
      exact Script.program_keeps hP.serves (app.run e) hP.calm

def launch (w : World h) (scripts : List (Thread × Script h α)) : Machine h α :=
  ⟨w, scripts.map fun s => (s.1, s.2.program), [], List.replicate w.pool.size none⟩

theorem keeps_launch (hP : P.Upheld app) (w : World h) (scripts : List (Thread × Script h α)) :
    (launch w scripts).Keeps P fun _ => P.rest := by
  intro a
  refine ⟨fun r hr => ?_, fun _ => rfl⟩
  cases a with
  | caller n =>
    simp only [running?, launch, List.getElem?_map, Option.map_map, Option.map_eq_some_iff] at hr
    obtain ⟨⟨t, script⟩, -, rfl⟩ := hr
    exact Script.program_keeps hP.serves script hP.calm
  | errand n => simp [running?, launch] at hr
  | worker n =>
    simp only [running?, launch, List.getElem?_replicate] at hr
    split at hr <;> cases hr

end Machine

inductive Move where
  | turn (a : Actor)
  /-- The pool gets other room, opens or closes, so that any submission can be refused. -/
  | refit (capacity : Nat) (closed isSealed : Bool)

/-- A machine on its way, and what its threads have done, the latest first. -/
structure Course (h : Host) (α : Type) where
  machine : Machine h α
  history : List (Actor × Occurrence h)

namespace Course

def world (s : Course h α) : World h := s.machine.world

/-- A thread that cannot take its turn lets it pass. -/
def move (app : Application h) (s : Course h α) : Move → Course h α
  | .turn a =>
    match s.machine.turn app a with
    | some m => ⟨m, ((s.machine.occurrence? a).map (a, ·)).toList ++ s.history⟩
    | none => s
  | .refit capacity closed isSealed =>
    { s with machine.world.pool :=
        { s.machine.world.pool with capacity, closed, sealed := isSealed } }

def run (app : Application h) (c : Config) (publisher : Option Publisher) (host : h.State)
    (scripts : List (Thread × Script h α)) (moves : List Move) : Course h α :=
  moves.foldl (move app) ⟨.launch (.start c publisher host) scripts, []⟩

/-- Where a dispatcher with this application can get, whatever its settings, the scripts of its callers
and the order of the turns. -/
def Reachable (app : Application h) (s : Course h α) : Prop :=
  ∃ c publisher host scripts moves, s = run app c publisher host scripts moves

theorem reachable_run (app : Application h) (c : Config) (publisher : Option Publisher)
    (host : h.State) (scripts : List (Thread × Script h α)) (moves : List Move) :
    (run app c publisher host scripts moves).Reachable app :=
  ⟨c, publisher, host, scripts, moves, rfl⟩

/-- What holds of every new dispatcher, and is kept by every move, holds throughout. -/
theorem Reachable.induct {app : Application h} {I : Course h α → Prop}
    (start : ∀ c publisher host scripts, I ⟨.launch (.start c publisher host) scripts, []⟩)
    (step : ∀ s m, I s → I (move app s m)) {s : Course h α} (reached : s.Reachable app) : I s := by
  obtain ⟨c, publisher, host, scripts, moves, rfl⟩ := reached
  unfold run
  have begun := start c publisher host scripts
  -- The moves are taken one by one from whatever course they have led to.
  generalize (⟨.launch (.start c publisher host) scripts, []⟩ : Course h α) = s at begun
  induction moves generalizing s with
  | nil => exact begun
  | cons m rest ih => exact ih (move app s m) (step s m begun)

theorem move_turn {app : Application h} {s : Course h α} {a : Actor} :
    move app s (.turn a) = s ∨ ∃ m o, move app s (.turn a) = ⟨m, (a, o) :: s.history⟩ ∧
      Machine.Turned app s.machine a m o ∧ s.machine.Others app a m := by
  cases ht : s.machine.turn app a with
  | none => exact .inl (by simp only [move, ht])
  | some m =>
    obtain ⟨⟨o, ho, turned⟩, others⟩ := Machine.turn_turned ht
    refine .inr ⟨m, o, ?_, turned, others⟩
    simp only [move, ht, ho, Option.map_some, Option.toList_some, List.singleton_append]

def after (app : Application h) (s : Course h α) (actors : List Actor) : Course h α :=
  (actors.map .turn).foldl (move app) s

/-- What every turn keeps is kept as long as turns are all that happens. -/
theorem after_induct {app : Application h} {I : Course h α → Prop}
    (step : ∀ s a m o, s.machine.turn app a = some m → Machine.Turned app s.machine a m o →
      s.machine.Others app a m → I s → I ⟨m, (a, o) :: s.history⟩)
    {s : Course h α} (start : I s) (actors : List Actor) : I (s.after app actors) := by
  induction actors generalizing s with
  | nil => exact start
  | cons a rest ih =>
    refine @ih (move app s (.turn a)) ?_
    simp only [move]
    split
    · next m turn =>
      obtain ⟨⟨o, occurs, turned⟩, others⟩ := Machine.turn_turned turn
      rw [occurs]
      exact step s a m o turn turned others start
    · exact start

/-- What holds of every new dispatcher, and is kept by every turn, holds as long as turns are all that
happens. -/
theorem run_turns_induct (app : Application h) {I : Course h α → Prop} {c : Config}
    {publisher : Option Publisher} {host : h.State} {scripts : List (Thread × Script h α)}
    (start : I ⟨.launch (.start c publisher host) scripts, []⟩)
    (step : ∀ s a m o, s.machine.turn app a = some m → Machine.Turned app s.machine a m o →
      s.machine.Others app a m → I s → I ⟨m, (a, o) :: s.history⟩) (actors : List Actor) :
    I (run app c publisher host scripts (actors.map .turn)) :=
  after_induct step start actors

/-- Where the threads stand with a protocol after what they have done. -/
def standing (P : Protocol h σ) : List (Actor × Occurrence h) → Actor → σ
  | [] => fun _ => P.rest
  | (a, o) :: earlier => Function.update (standing P earlier) a (P.after (standing P earlier a) o)

/-- Every thread keeps a protocol that all programs keep. What holds of every new dispatcher, and is kept
by every turn of such a thread, holds throughout. -/
theorem Reachable.keeps_induct {P : Protocol h σ} {app : Application h} (hP : P.Upheld app)
    (answers : ∀ (w : World h) t o, P.Answers o (w.answer t o).1) {I : Course h α → Prop}
    (start : ∀ c publisher host scripts, I ⟨.launch (.start c publisher host) scripts, []⟩)
    (step : ∀ (s : Course h α) a m o, s.machine.Keeps P (standing P s.history) →
      Machine.Turned app s.machine a m o → I s → I ⟨m, (a, o) :: s.history⟩)
    (refit : ∀ (s : Course h α) pool, I s → I { s with machine.world.pool := pool })
    {s : Course h α} (reached : s.Reachable app) :
    s.machine.Keeps P (standing P s.history) ∧ I s := by
  refine Reachable.induct (I := fun s => s.machine.Keeps P (standing P s.history) ∧ I s) ?_ ?_ reached
  · intro c publisher host scripts
    exact ⟨Machine.keeps_launch hP _ scripts, start c publisher host scripts⟩
  · rintro s mv ⟨keeps, holds⟩
    cases mv with
    | turn a =>
      rcases move_turn (a := a) with same | ⟨m, o, moved, turned, others⟩
      · rw [same]
        exact ⟨keeps, holds⟩
      · rw [moved]
        exact ⟨keeps.turn hP turned others (answers s.machine.world),
          step s a m o keeps turned holds⟩
    | refit capacity closed isSealed => exact ⟨keeps, refit s _ holds⟩

end Course
end EventDispatch
