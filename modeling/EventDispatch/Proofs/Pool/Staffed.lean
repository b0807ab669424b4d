import EventDispatch.Proofs.Pool.Conserved

namespace EventDispatch

variable {h : Host} {α : Type} {a : Actor} {o : Occurrence h}

theorem Stage.eq_of_mayPerform_waiting {o : Op h} (may : MayPerform .waiting o) :
    o = .awaitDrained := by
  cases o with
  | awaitDrained => rfl
  | settle c => rcases may with ⟨stage, -⟩ | ⟨stage, -⟩ <;> cases stage
  | tally c => cases may.1
  | _ => cases may

theorem World.answer_busy (w : World h) (t : Thread) (o : Op h) :
    (w.answer t o).2.pool.busy = w.pool.busy := by
  by_cases elsewhere : o.IsElsewhere
  · rw [w.answer_elsewhere t elsewhere]
  · cases o with
    | enqueue job =>
      simp only [answer, Pool.enqueue]
      split
      · rfl
      · split <;> rfl
    | isClosed | tally | settle | close | sealQueue | join | awaitDrained => rfl
    | _ => exact absurd trivial elsewhere

namespace Machine

variable {app : Application h} {m m' : Machine h α}

theorem length_workers_turn (turn : m.turn app a = some m') :
    m'.workers.length = m.workers.length := by
  cases a with
  | caller n =>
    simp only [Machine.turn, callerTurn, Option.bind_eq_bind, Option.bind_eq_some_iff] at turn
    obtain ⟨_, -, _, -, same⟩ := turn
    cases same
    rfl
  | errand n =>
    simp only [Machine.turn, errandTurn, Option.bind_eq_bind, Option.bind_eq_some_iff] at turn
    obtain ⟨_, -, p, -, same⟩ := turn
    split at same
    · cases same
      rfl
    · simp only [Option.bind_eq_some_iff] at same
      obtain ⟨_, -, same⟩ := same
      cases same
      rfl
  | worker n =>
    simp only [Machine.turn, workerTurn, Option.bind_eq_bind, Option.bind_eq_some_iff] at turn
    obtain ⟨slot, -, same⟩ := turn
    cases slot with
    | none =>
      simp only [Option.bind_eq_some_iff] at same
      obtain ⟨_, -, same⟩ := same
      cases same
      exact List.length_set
    | some p =>
      dsimp only at same
      split at same
      · cases same
        exact List.length_set
      · simp only [Option.bind_eq_some_iff] at same
        obtain ⟨_, -, same⟩ := same
        cases same
        exact List.length_set

theorem Turned.of_performed {o : Op h} {x : o.Answer} (turned : Turned app m a m' (.performed o x)) :
    ∃ β t next, m.running? a = some ⟨β, t, .perform o next⟩ ∧ m.world.answer t o = (x, m'.world) ∧
      m.world.isReady t o := by
  cases turned with
  | performed before after world ready => exact ⟨_, _, _, before, Prod.ext rfl world.symm, ready⟩

theorem turn_of_panic (app : Application h) {n : Nat} {e : Panic}
    (panics : m.running? (.worker n) = some ⟨Unit, .worker n, .panic e⟩) :
    n < m.workers.length ∧ ∃ m', m.turn app (.worker n) = some m' ∧
      m'.world.pool = m.world.pool.finish n .panicked ∧ m'.running? (.worker n) = none := by
  obtain ⟨p, slot, same⟩ := Option.map_eq_some_iff.1 panics
  cases same
  have slot := Option.join_eq_some_iff.1 slot
  have present : n < m.workers.length := (List.getElem?_eq_some_iff.1 slot).1
  refine ⟨present, ?_⟩
  simp only [Machine.turn, workerTurn, slot, Option.bind_eq_bind, Option.bind_some, finishJob]
  refine ⟨_, rfl, rfl, ?_⟩
  simp only [running?, List.getElem?_set_self present, Option.join_some, Option.map_none]

theorem turn_of_idle (app : Application h) {n : Nat} {job : Job h} {rest : List (Job h)}
    (present : n < m.workers.length) (idle : m.running? (.worker n) = none)
    (first : m.world.pool.queue = job :: rest) :
    ∃ m', m.turn app (.worker n) = some m' ∧ m'.world.pool.queue = rest ∧
      m'.running? (.worker n) = some ⟨Unit, .worker n, job.program⟩ := by
  have empty := Option.map_eq_none_iff.1 idle
  rw [List.getElem?_eq_getElem present, Option.join_some] at empty
  have slot : m.workers[n]? = some none := by rw [List.getElem?_eq_getElem present, empty]
  simp only [Machine.turn, workerTurn, slot, Option.bind_eq_bind, Option.bind_some, Pool.take, first]
  refine ⟨_, rfl, rfl, ?_⟩
  simp only [running?, List.getElem?_set_self present, Option.join_some, Option.map_some]

def Outside (m : Machine h α) : Prop :=
  ∀ a r, m.running? a = some r → (∀ n, a ≠ .worker n) → World.workerOf r.thread = none

theorem Turned.outside (turned : Turned app m a m' o) (others : m.Others app a m')
    (outside : m.Outside) : m'.Outside := by
  intro b r running foreign
  by_cases same : b = a
  · subst same
    cases turned with
    | performed before after world ready =>
      rw [after] at running
      cases running
      have kept := outside b _ before foreign
      exact kept
    | called before after world =>
      rw [after] at running
      cases running
      have kept := outside b _ before foreign
      exact kept
    | took actor before take after world => exact absurd actor (foreign _)
    | ended before finished after world =>
      rw [after] at running
      cases running
  · rcases others b same with kept | ⟨-, n, e, -, new⟩
    · rw [kept] at running
      exact outside b r running foreign
    · rw [new] at running
      cases running
      rfl

theorem Others.running_worker (others : m.Others app a m') {n : Nat} (other : .worker n ≠ a) :
    m'.running? (.worker n) = m.running? (.worker n) := by
  rcases others _ other with kept | ⟨-, k, e, errand, -⟩
  · exact kept
  · cases errand

theorem Turned.manned (turned : Turned app m a m' o) (others : m.Others app a m')
    (manned : m.Manned) : m'.Manned := by
  cases turned with
  | performed before after world ready =>
    intro n
    rw [world, World.answer_busy, manned n]
    by_cases own : .worker n = a
    · rw [own, before, after]
      exact Iff.rfl
    · rw [others.running_worker own]
  | called before after world =>
    intro n
    rw [world, manned n]
    by_cases own : .worker n = a
    · rw [own, before, after]
      exact Iff.rfl
    · rw [others.running_worker own]
  | @took k job pool actor before take after world =>
    obtain ⟨rest, -, rfl⟩ := Pool.take_spec take
    subst actor
    intro n
    rw [world, List.mem_cons, manned n]
    by_cases own : n = k
    · subst own
      rw [after]
      exact iff_of_true (.inl rfl) rfl
    · rw [others.running_worker fun same => own (Actor.worker.inj same), or_iff_right own]
  | ended before finished after world =>
    intro n
    rcases world with ⟨k, p, rfl, hw⟩ | ⟨k, p, rfl, -, hw⟩
    · rw [finishErrand_pool hw, manned n, others.running_worker Actor.noConfusion]
    · obtain ⟨c, -, pool⟩ := finishJob_pool hw
      rw [pool, Pool.finish, List.mem_filter, bne_iff_ne, manned n]
      by_cases own : n = k
      · subst own
        rw [after]
        exact iff_of_false (fun busy => busy.2 rfl) Bool.false_ne_true
      · rw [others.running_worker fun same => own (Actor.worker.inj same), and_iff_left own]

end Machine

namespace Course

variable {app : Application h} {c : Config} {s : Course h α} {m : Machine h α}

/-- What every turn keeps, of the pool and of the threads. -/
structure Staffed (c : Config) (s : Course h α) : Prop where
  keeps : s.machine.Keeps Stage.offering s.inventory.stage
  manned : s.machine.Manned
  outside : s.machine.Outside
  size : s.machine.workers.length = c.poolSize
  capacity : s.world.pool.capacity = c.queueCapacity
  conserved : s.inventory.Conserved
  counted : s.inventory.Counted

theorem Staffed.turned (staffed : s.Staffed c) (turn : s.machine.turn app a = some m)
    (turned : Machine.Turned app s.machine a m o) (others : s.machine.Others app a m) :
    Staffed c ⟨m, (a, o) :: s.history⟩ := by
  have deed := inventory_deed staffed.keeps staffed.manned turned
  exact {
    keeps := staffed.keeps.turn (Stage.offering_upheld app) turned others fun _ _ => trivial
    manned := turned.manned others staffed.manned
    outside := turned.outside others staffed.outside
    size := (Machine.length_workers_turn turn).trans staffed.size
    capacity := deed.capacity.trans staffed.capacity
    conserved := staffed.conserved.deed deed
    counted := staffed.counted.deed deed }

theorem Staffed.mayPerform (staffed : s.Staffed c) {o : Op h} {x : o.Answer}
    (turned : Machine.Turned app s.machine a m (.performed o x)) :
    (s.inventory.stage a).MayPerform o := by
  obtain ⟨β, t, next, before, -, -⟩ := turned.of_performed
  exact ((staffed.keeps a).1 _ before).1

/-- A thread that may wait for the workers does nothing else, and goes on when they have ended. -/
theorem Staffed.emptied_of_waiting (staffed : s.Staffed c) (turned : Machine.Turned app s.machine a m o)
    (outside : ∀ n, a ≠ .worker n) (waiting : s.inventory.stage a = .waiting) :
    s.inventory.Emptied := by
  cases turned with
  | @performed β t o next before after world ready =>
    have may := ((staffed.keeps a).1 _ before).1
    rw [waiting] at may
    cases Stage.eq_of_mayPerform_waiting may
    have foreign : World.workerOf t = none := staffed.outside a _ before outside
    have drained : s.world.pool.queue.isEmpty && s.world.pool.busy.isEmpty := by
      have ready : s.world.pool.isDrained (World.workerOf t) := ready
      rwa [foreign] at ready
    rw [Bool.and_eq_true, List.isEmpty_iff, List.isEmpty_iff] at drained
    exact ⟨staffed.counted.shutting a (.inr waiting), drained.1, drained.2⟩
  | called before after world =>
    have free : s.inventory.stage a = .free := ((staffed.keeps a).1 _ before).1
    cases waiting.symm.trans free
  | took actor before take after world =>
    cases waiting.symm.trans ((staffed.keeps a).2 before)
  | ended before finished after world =>
    have free : s.inventory.stage a = .free :=
      Program.stage_of_over ((staffed.keeps a).1 _ before) finished
    cases waiting.symm.trans free

end Course
end EventDispatch
