import EventDispatch.Proofs.Pool.Staffed

namespace EventDispatch

variable {h : Host} {α : Type}

/-- Thread `a` did `o` after `before`, and nothing since. -/
def Lately (a : Actor) (o : Occurrence h) (before history : List (Actor × Occurrence h)) : Prop :=
  ∃ since, history = since ++ (a, o) :: before ∧ ∀ x ∈ since, x.1 ≠ a

/-- A thread that is no worker shut the pool down, was given the right to wait for the workers, and went
on from there. -/
def ShutDown (history : List (Actor × Occurrence h)) : Prop :=
  ∃ a o later earlier before, (∀ n, a ≠ .worker n) ∧ history = later ++ (a, o) :: earlier ∧
    Lately a (.performed .join true) before earlier

variable {a a' : Actor} {o o' : Occurrence h} {before history : List (Actor × Occurrence h)}

theorem lately_cons_iff :
    Lately a o before ((a', o') :: history) ↔
      (a' = a ∧ o' = o ∧ history = before) ∨ a' ≠ a ∧ Lately a o before history := by
  constructor
  · rintro ⟨since, same, other⟩
    cases since with
    | nil =>
      cases same
      exact .inl ⟨rfl, rfl, rfl⟩
    | cons x since =>
      cases same
      obtain ⟨ne, other⟩ := List.forall_mem_cons.1 other
      exact .inr ⟨ne, since, rfl, other⟩
  · rintro (⟨rfl, rfl, rfl⟩ | ⟨ne, since, rfl, other⟩)
    · exact ⟨[], rfl, fun x hx => by cases hx⟩
    · exact ⟨(a', o') :: since, rfl, List.forall_mem_cons.2 ⟨ne, other⟩⟩

namespace Roll

/-- The stage of a thread is that to which its last step led. -/
theorem stage_of_lately (lately : Lately a o before history) :
    (Roll.of history).stage a = .after o := by
  induction history with
  | nil =>
    obtain ⟨since, same, -⟩ := lately
    cases since <;> cases same
  | cons x earlier ih =>
    obtain ⟨a', o'⟩ := x
    show Function.update (Roll.of earlier).stage a' (.after o') a = .after o
    rcases lately_cons_iff.1 lately with ⟨rfl, rfl, rfl⟩ | ⟨ne, lately⟩
    · rw [Function.update_self]
    · rw [Function.update_of_ne (Ne.symm ne), ih lately]

theorem lately_of_stage {stage : Stage} (at_stage : (Roll.of history).stage a = stage)
    (busy : stage ≠ .free) : ∃ o before, Lately a o before history ∧ .after o = stage := by
  induction history with
  | nil => exact absurd at_stage.symm busy
  | cons x earlier ih =>
    obtain ⟨a', o'⟩ := x
    have latest : (Roll.of ((a', o') :: earlier)).stage a =
      Function.update (Roll.of earlier).stage a' (.after o') a := rfl
    by_cases same : a = a'
    · subst same
      rw [latest, Function.update_self] at at_stage
      exact ⟨o', earlier, lately_cons_iff.2 (.inl ⟨rfl, rfl, rfl⟩), at_stage⟩
    · rw [latest, Function.update_of_ne same] at at_stage
      obtain ⟨o, before, lately, after⟩ := ih at_stage
      exact ⟨o, before, lately_cons_iff.2 (.inr ⟨Ne.symm same, lately⟩), after⟩

end Roll

namespace Stage

theorem eq_of_after_waiting (waiting : after o = .waiting) : o = .performed .join true := by
  unfold after at waiting
  split at waiting
  case h_5 granted =>
    cases granted with
    | true => rfl
    | false => cases waiting
  all_goals first | cases waiting | (split at waiting <;> cases waiting)

theorem eq_of_after_cleared (cleared : after o = .cleared) : o = .performed .isClosed false := by
  unfold after at cleared
  split at cleared
  · next closed =>
    cases closed with
    | true => cases cleared
    | false => rfl
  all_goals first | cases cleared | (split at cleared <;> cases cleared)

theorem eq_of_after_accepted (accepted : after o = .accepted) :
    ∃ job, o = .performed (.enqueue job) (.ok ()) := by
  unfold after at accepted
  split at accepted
  case h_2 job _ => exact ⟨job, rfl⟩
  all_goals first | cases accepted | (split at accepted <;> cases accepted)

end Stage

theorem lately_join_iff :
    (∃ before, Lately a (.performed .join true) before history) ↔
      (Roll.of history).stage a = .waiting := by
  constructor
  · rintro ⟨before, lately⟩
    exact Roll.stage_of_lately lately
  · intro waiting
    obtain ⟨o, before, lately, after⟩ := Roll.lately_of_stage waiting (by decide)
    cases Stage.eq_of_after_waiting after
    exact ⟨before, lately⟩

theorem shutDown_cons_iff :
    ShutDown ((a, o) :: history) ↔
      ShutDown history ∨ (∀ n, a ≠ .worker n) ∧ (Roll.of history).stage a = .waiting := by
  rw [← lately_join_iff]
  constructor
  · rintro ⟨a', o', later, earlier, before, outside, same, lately⟩
    cases later with
    | nil =>
      cases same
      exact .inr ⟨outside, before, lately⟩
    | cons x later =>
      cases same
      exact .inl ⟨a', o', later, earlier, before, outside, rfl, lately⟩
  · rintro (⟨a', o', later, earlier, before, outside, rfl, lately⟩ | ⟨outside, before, lately⟩)
    · exact ⟨a', o', (a, o) :: later, earlier, before, outside, rfl, lately⟩
    · exact ⟨a, o, [], history, before, outside, rfl, lately⟩

theorem not_shutDown_nil : ¬ShutDown ([] : List (Actor × Occurrence h)) := by
  rintro ⟨a, o, later, earlier, before, -, same, -⟩
  cases later <;> cases same

def Actor.isWorker : Actor → Bool
  | .worker _ => true
  | _ => false

theorem Actor.isWorker_eq_false {a : Actor} : a.isWorker = false ↔ ∀ n, a ≠ .worker n := by
  cases a <;> simp [isWorker]

instance decidableShutDown : DecidablePred (ShutDown (h := h))
  | [] => isFalse not_shutDown_nil
  | (a, _) :: history =>
    have := decidableShutDown history
    decidable_of_iff
      (ShutDown history ∨ a.isWorker = false ∧ (Roll.of history).stage a = .waiting) <| by
        rw [shutDown_cons_iff, Actor.isWorker_eq_false]

namespace Course

variable {app : Application h} {c : Config} {s : Course h α} {m : Machine h α}

structure Watched (s : Course h α) : Prop where
  closed : ∀ a, (a, .performed .close ()) ∈ s.history → s.world.pool.closed = true
  cleared : ∀ a before, Lately a (.performed .isClosed false) before s.history →
    ∀ a', (a', .performed .close ()) ∉ before
  accepted : ∀ a job later earlier,
    s.history = later ++ (a, .performed (.enqueue job) (.ok ())) :: earlier →
      ∃ before, Lately a (.performed .isClosed false) before earlier ∧
        ∀ a', (a', .performed .close ()) ∉ before
  drained : ShutDown s.history → s.inventory.Emptied

theorem Watched.start (w : World h) (scripts : List (Thread × Script h α)) :
    Watched ⟨.launch w scripts, []⟩ where
  closed a close := by cases close
  cleared a before lately := by
    obtain ⟨since, same, -⟩ := lately
    cases since <;> cases same
  accepted a job later earlier same := by cases later <;> cases same
  drained shutDown := absurd shutDown not_shutDown_nil

theorem Watched.closed_turned (watched : s.Watched) (staffed : s.Staffed c)
    (turned : Machine.Turned app s.machine a m o) (a' : Actor)
    (close : (a', .performed .close ()) ∈ (a, o) :: s.history) : m.world.pool.closed = true := by
  rcases List.mem_cons.1 close with now | before
  · cases now
    obtain ⟨β, t, next, -, answer, -⟩ := turned.of_performed
    have world : _ = m.world := congrArg Prod.snd answer
    rw [← world]
    rfl
  · have deed := inventory_deed staffed.keeps staffed.manned turned
    exact deed.closed (watched.closed a' before)

theorem Watched.cleared_turned (watched : s.Watched) (turned : Machine.Turned app s.machine a m o)
    (a' : Actor) (before : List (Actor × Occurrence h))
    (lately : Lately a' (.performed .isClosed false) before ((a, o) :: s.history)) (b : Actor) :
    (b, .performed .close ()) ∉ before := by
  rcases lately_cons_iff.1 lately with ⟨rfl, rfl, rfl⟩ | ⟨-, lately⟩
  · -- The pool was open in this turn, so it was never closed before.
    intro close
    obtain ⟨β, t, next, -, answer, -⟩ := turned.of_performed
    have opened : s.world.pool.closed = false := congrArg Prod.fst answer
    rw [watched.closed b close] at opened
    cases opened
  · exact watched.cleared a' before lately b

theorem Watched.accepted_turned (watched : s.Watched) (staffed : s.Staffed c)
    (turned : Machine.Turned app s.machine a m o) (a' : Actor) (job : Job h)
    (later earlier : List (Actor × Occurrence h))
    (accepts : (a, o) :: s.history = later ++ (a', .performed (.enqueue job) (.ok ())) :: earlier) :
    ∃ before, Lately a' (.performed .isClosed false) before earlier ∧
      ∀ b, (b, .performed .close ()) ∉ before := by
  cases later with
  | nil =>
    cases accepts
    have cleared : s.inventory.stage a = .cleared := staffed.mayPerform turned
    obtain ⟨o, before, lately, after⟩ := Roll.lately_of_stage cleared (by decide)
    cases Stage.eq_of_after_cleared after
    exact ⟨before, lately, watched.cleared a before lately⟩
  | cons x later => exact watched.accepted a' job later earlier (List.cons.inj accepts).2

theorem Watched.drained_turned (watched : s.Watched) (staffed : s.Staffed c)
    (turned : Machine.Turned app s.machine a m o) (shutDown : ShutDown ((a, o) :: s.history)) :
    (inventory ⟨m, (a, o) :: s.history⟩).Emptied := by
  have deed := inventory_deed staffed.keeps staffed.manned turned
  rcases shutDown_cons_iff.1 shutDown with before | ⟨outside, waiting⟩
  · exact (watched.drained before).deed deed
  · exact (staffed.emptied_of_waiting turned outside waiting).deed deed

theorem Watched.turned (watched : s.Watched) (staffed : s.Staffed c)
    (turned : Machine.Turned app s.machine a m o) : Watched ⟨m, (a, o) :: s.history⟩ where
  closed := watched.closed_turned staffed turned
  cleared := watched.cleared_turned turned
  accepted := watched.accepted_turned staffed turned
  drained := watched.drained_turned staffed turned

theorem Staffed.start (c : Config) (publisher : Option Publisher) (host : h.State)
    (scripts : List (Thread × Script h α)) (foreign : ∀ x ∈ scripts, World.workerOf x.1 = none)
    (app : Application h) : Staffed c ⟨.launch (.start c publisher host) scripts, []⟩ where
  keeps := Machine.keeps_launch (Stage.offering_upheld app) _ scripts
  manned n := by
    simp only [Machine.running?, Machine.launch, List.getElem?_replicate]
    split <;> exact iff_of_false List.not_mem_nil Bool.false_ne_true
  outside a r running other := by
    cases a with
    | caller n =>
      obtain ⟨x, slot, rfl⟩ := Option.map_eq_some_iff.1 running
      obtain ⟨y, mem, rfl⟩ := List.mem_map.1 (List.mem_of_getElem? slot)
      exact foreign y mem
    | errand n => simp [Machine.running?, Machine.launch] at running
    | worker n => exact absurd rfl (other n)
  size := List.length_replicate
  capacity := rfl
  conserved := .start c.poolSize c.queueCapacity
  counted := .start c.poolSize c.queueCapacity

def roll (s : Course h α) : Roll h := .of s.history

/-- Where all jobs are that were ever accepted, told apart by their place in the order of acceptance,
and how the pool goes on. -/
structure JobsConserved (app : Application h) (c : Config) (s : Course h α) : Prop where
  room : s.world.pool.queue.length ≤ c.queueCapacity
  in_order : s.roll.accepted = s.roll.taken ++ s.world.pool.queue
  placed : (s.roll.finished ++ s.roll.running.map (·.2) ++
    List.range' s.roll.taken.length s.world.pool.queue.length).Perm
      (List.range s.roll.accepted.length)
  runners : (s.roll.running.map (·.1)).Nodup ∧
    ∀ n, n ∈ s.roll.running.map (·.1) ↔ (s.machine.running? (.worker n)).isSome
  ended : s.world.pool.stats.completed + s.world.pool.stats.panicked = s.roll.finished.length
  /-- A panic is counted, and the worker is idle then. -/
  survived : ∀ n e, s.machine.running? (.worker n) = some ⟨Unit, .worker n, .panic e⟩ →
    n < c.poolSize ∧
      (s.move app (.turn (.worker n))).world.pool.stats = s.world.pool.stats.bump .panicked ∧
      (s.move app (.turn (.worker n))).machine.running? (.worker n) = none
  /-- An idle worker takes the job that waits longest. -/
  served : ∀ n < c.poolSize, s.machine.running? (.worker n) = none →
    ∀ job rest, s.world.pool.queue = job :: rest →
      (s.move app (.turn (.worker n))).world.pool.queue = rest ∧
      (s.move app (.turn (.worker n))).machine.running? (.worker n) =
        some ⟨Unit, .worker n, job.program⟩
  /-- A job is accepted from a thread that saw the pool open when no shutdown had closed it. -/
  timely : ∀ a job later earlier,
    s.history = later ++ (a, .performed (.enqueue job) (.ok ())) :: earlier →
      ∃ before, Lately a (.performed .isClosed false) before earlier ∧
        ∀ a', (a', .performed .close ()) ∉ before
  drained : ShutDown s.history →
    s.world.pool.queue = [] ∧ s.roll.running = [] ∧
      s.roll.finished.Perm (List.range s.roll.accepted.length) ∧
      s.world.pool.stats.completed + s.world.pool.stats.panicked = s.world.pool.stats.submitted

/-- Whatever the settings, the application and its callers, and in whatever order threads take turns. -/
theorem jobs_conserved (app : Application h) (c : Config) (publisher : Option Publisher)
    (host : h.State) (scripts : List (Thread × Script h α))
    (foreign : ∀ x ∈ scripts, World.workerOf x.1 = none) (actors : List Actor) :
    (run app c publisher host scripts (actors.map .turn)).JobsConserved app c := by
  obtain ⟨staffed, watched⟩ :=
    run_turns_induct app (I := fun s : Course h α => s.Staffed c ∧ s.Watched)
      ⟨.start c publisher host scripts foreign app, .start _ scripts⟩
      (fun s a m o turn turned others ⟨staffed, watched⟩ =>
        ⟨staffed.turned turn turned others, watched.turned staffed turned⟩) actors
  -- From here on only what every turn keeps is used, and not how the course came about.
  generalize run app c publisher host scripts (actors.map .turn) = s at staffed watched
  have conserved := staffed.conserved
  exact {
    room := staffed.capacity ▸ conserved.room
    in_order := conserved.in_order
    placed := conserved.placed_all
    runners := by
      have crewed := conserved.crewed
      have alone := conserved.alone
      rw [crewed] at alone
      exact ⟨alone, fun n => crewed ▸ staffed.manned n⟩
    ended := conserved.ended
    survived := fun n e panics => by
      obtain ⟨present, m, turn, pool, idle⟩ := Machine.turn_of_panic app panics
      simp only [move, turn]
      exact ⟨staffed.size ▸ present, congrArg Pool.stats pool, idle⟩
    served := fun n present idle job rest first => by
      obtain ⟨m, turn, queue, runs⟩ :=
        Machine.turn_of_idle app (staffed.size ▸ present) idle first
      simp only [move, turn]
      exact ⟨queue, runs⟩
    timely := watched.accepted
    drained := fun shutDown =>
      have emptied := watched.drained shutDown
      ⟨emptied.queue, emptied.running conserved, emptied.finished conserved,
        emptied.submitted conserved staffed.counted⟩ }

abbrev alarmHost : Host := ⟨Unit, Empty, Empty, Unit, Unit, Empty⟩

def alarmed : Application alarmHost where
  listen _ _ _ := .panic (.text "boom")
  intercept i := nomatch i
  run e := nomatch e

def alarm : Script alarmHost Unit := do
  let _ ← Script.ask (.dispatch .background (some (.raw ⟨"n", ⟨"null"⟩, .epoch, none⟩)) .empty)

def alarming : Thread × Script alarmHost Unit :=
  (.main, do
    let _ ← Script.ask (.subscribe "n" (.plain ()) ⟨0, true, false⟩)
    alarm
    alarm
    alarm
    Script.ask .shutdown)

def narrow : Config := { Config.default with poolSize := 1, queueCapacity := 1 }

def rounds : List Actor :=
  List.replicate 20 (.caller 0) ++ List.replicate 3 (.worker 0) ++ List.replicate 15 (.caller 0) ++
    List.replicate 3 (.worker 0) ++ List.replicate 2 (.caller 0)

/-- The second event finds the queue full. The worker takes the first job, panics, and is there for the
third. -/
def panicking : Course alarmHost Unit := run alarmed narrow none () [alarming] (rounds.map .turn)

theorem panicked_jobs_finished :
    ShutDown panicking.history ∧ panicking.world.pool.stats = ⟨2, 0, 2, 1⟩ ∧
      panicking.JobsConserved alarmed narrow ∧
      panicking.roll.finished.Perm (List.range panicking.roll.accepted.length) := by
  have conserved : panicking.JobsConserved alarmed narrow :=
    jobs_conserved alarmed narrow none () [alarming] (by decide) rounds
  have ended : ShutDown panicking.history := by decide +kernel
  have stats : panicking.world.pool.stats = ⟨2, 0, 2, 1⟩ := by decide +kernel
  obtain ⟨-, -, finished, -⟩ := conserved.drained ended
  exact ⟨ended, stats, conserved, finished⟩

end Course
end EventDispatch
