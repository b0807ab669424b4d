import EventDispatch.Proofs.Pool.Stages

namespace EventDispatch

variable {h : Host} {α : Type}

namespace Occurrence

def acceptedJob : Occurrence h → List (Job h)
  | .performed (.enqueue job) (.ok _) => [job]
  | _ => []

def takenJob : Occurrence h → List (Job h)
  | .took job => [job]
  | _ => []

end Occurrence

/-- All jobs of the worker pool, read off the history of a course. They are told apart by their place in
the order of acceptance. -/
structure Roll (h : Host) where
  stage : Actor → Stage
  /-- The jobs that the queue accepted, in order. -/
  accepted : List (Job h)
  /-- The jobs that workers took, in order. -/
  taken : List (Job h)
  /-- The workers that run a job, with the place of the job. -/
  running : List (Nat × Nat)
  /-- The places of the jobs that are finished. -/
  finished : List Nat

namespace Roll

def empty : Roll h := ⟨fun _ => .free, [], [], [], []⟩

def placesOf (l : Roll h) (n : Nat) : List Nat := (l.running.filter (·.1 == n)).map (·.2)

def note (l : Roll h) (a : Actor) (o : Occurrence h) : Roll h where
  stage := Function.update l.stage a (.after o)
  accepted := l.accepted ++ o.acceptedJob
  taken := l.taken ++ o.takenJob
  running :=
    match a, o with
    | .worker n, .took _ => (n, l.taken.length) :: l.running
    | .worker n, .ended => l.running.filter (·.1 != n)
    | _, _ => l.running
  finished :=
    match a, o with
    | .worker n, .ended => l.finished ++ l.placesOf n
    | _, _ => l.finished

def of : List (Actor × Occurrence h) → Roll h
  | [] => empty
  | (a, o) :: earlier => (of earlier).note a o

end Roll

def Op.IsElsewhere : Op h → Prop
  | .isClosed => False
  | .enqueue _ => False
  | .tally _ => False
  | .settle _ => False
  | .close => False
  | .sealQueue => False
  | .join => False
  | .awaitDrained => False
  | _ => True

namespace Roll

variable {l : Roll h} {a : Actor}

/-- Steps that accept no job change nothing but the stage. -/
theorem note_performed (l : Roll h) (a : Actor) {o : Op h} {x : o.Answer}
    (unaccepted : (Occurrence.performed o x).acceptedJob = []) :
    l.note a (.performed o x) =
      { l with stage := Function.update l.stage a (.after (.performed o x)) } := by
  simp only [note, unaccepted, Occurrence.takenJob, List.append_nil]

theorem note_accepted (l : Roll h) (a : Actor) (job : Job h) :
    l.note a (.performed (.enqueue job) (.ok ())) =
      { l with
        stage := Function.update l.stage a (.accepted)
        accepted := l.accepted ++ [job] } := by
  simp only [note, Occurrence.acceptedJob, Occurrence.takenJob, List.append_nil]
  rfl

theorem note_of_free (free : l.stage a = .free) {o : Op h} {x : o.Answer}
    (unaccepted : (Occurrence.performed o x).acceptedJob = [])
    (still : Stage.after (.performed o x) = .free) : l.note a (.performed o x) = l := by
  rw [note_performed l a unaccepted, still, ← free, Function.update_eq_self]

theorem note_called (free : l.stage a = .free) (c : Call h) : l.note a (.called c) = l := by
  have still : Stage.after (.called c) = l.stage a := free.symm
  simp only [note, still, Function.update_eq_self, Occurrence.acceptedJob, Occurrence.takenJob,
    List.append_nil]

end Roll

theorem Stage.free_of_elsewhere {s : Stage} {o : Op h} (elsewhere : o.IsElsewhere)
    (may : s.MayPerform o) : s = .free := by
  cases o <;> first | exact elsewhere.elim | exact may

theorem World.answerHost_pool (w : World h) (t : Thread) (o : HostOp h) :
    (w.answerHost t o).2.pool = w.pool := by
  cases o with
  | register type =>
    obtain ⟨types, after⟩ := w.register_concerns t type
    exact congrArg (·.pool) after
  | _ => rfl

theorem World.answer_elsewhere (w : World h) (t : Thread) {o : Op h} (ho : o.IsElsewhere) :
    (w.answer t o).2.pool = w.pool := by
  cases o with
  | host o => exact w.answerHost_pool t o
  | publish ctx m =>
    obtain ⟨bus, buffer, trail, after⟩ := w.publish_concerns t ctx m
    exact congrArg (·.pool) after
  | _ => first | exact ho.elim | rfl

theorem Pool.take_spec {p p' : Pool h} {n : Nat} {job : Job h} (take : p.take n = some (job, p')) :
    ∃ rest, p.queue = job :: rest ∧ p' = { p with queue := rest, busy := n :: p.busy } := by
  unfold Pool.take at take
  split at take
  · cases take
  · next first rest queue =>
    cases take
    exact ⟨rest, queue, rfl⟩

structure Inventory (h : Host) where
  roll : Roll h
  pool : Pool h

namespace Inventory

def stage (b : Inventory h) : Actor → Stage := b.roll.stage

def move (b : Inventory h) (a : Actor) (s : Stage) : Inventory h :=
  { b with roll.stage := Function.update b.stage a s }

/-- All that a turn of thread `a` can change, and when it can. -/
inductive Deed (a : Actor) (b : Inventory h) : Inventory h → Prop where
  | same : Deed a b b
  | clear (free : b.stage a = .free) : Deed a b (b.move a .cleared)
  | accept (job : Job h) (cleared : b.stage a = .cleared) (unheld : b.pool.held = false)
      (unsealed : b.pool.sealed = false) (room : b.pool.queue.length < b.pool.capacity) :
      Deed a b { b.move a (.accepted) with
        roll.accepted := b.roll.accepted ++ [job]
        pool.queue := b.pool.queue ++ [job]
        pool.held := true }
  | refuse (cleared : b.stage a = .cleared) (unheld : b.pool.held = false) :
      Deed a b { b.move a (.refused) with pool.held := true }
  | tally (free : b.stage a = .free) : Deed a b { b with pool := b.pool.count .rejected }
  | countAccepted (accepted : b.stage a = .accepted) :
      Deed a b { b.move a .free with pool := b.pool.settle .submitted }
  | countRefused (refused : b.stage a = .refused) :
      Deed a b { b.move a .free with pool := b.pool.settle .rejected }
  | close (free : b.stage a = .free) : Deed a b { b with pool.closed := true }
  | closeQueue (free : b.stage a = .free) (unheld : b.pool.held = false) :
      Deed a b { b.move a .closing with pool.sealed := true }
  | wait (closing : b.stage a = .closing) (first : b.pool.joined = false) :
      Deed a b { b.move a .waiting with pool.joined := true }
  | pass (closing : b.stage a = .closing) : Deed a b (b.move a .free)
  | drain (waiting : b.stage a = .waiting) : Deed a b (b.move a .free)
  | take (n : Nat) (job : Job h) (rest : List (Job h)) (first : b.pool.queue = job :: rest)
      (idle : n ∉ b.pool.busy) :
      Deed a b { b with
        roll.taken := b.roll.taken ++ [job]
        roll.running := (n, b.roll.taken.length) :: b.roll.running
        pool.queue := rest
        pool.busy := n :: b.pool.busy }
  | finish (n : Nat) (c : Counter) (outcome : c = .completed ∨ c = .panicked) (runs : n ∈ b.pool.busy) :
      Deed a b { b with
        roll.running := b.roll.running.filter (·.1 != n)
        roll.finished := b.roll.finished ++ b.roll.placesOf n
        pool := b.pool.finish n c }

variable {a : Actor} {b : Inventory h}

/-- What became of the job that is offered shows in the stage, and the queue is held from then on. -/
theorem deed_of_enqueue (job : Job h) (cleared : b.stage a = .cleared)
    (unheld : b.pool.held = false) :
    Deed a b ⟨b.roll.note a (.performed (.enqueue job) (b.pool.enqueue job).1),
      (b.pool.enqueue job).2⟩ := by
  unfold Pool.enqueue
  split
  · rw [Roll.note_performed _ a rfl]
    exact .refuse cleared unheld
  · next unsealed =>
    split
    · next room =>
      rw [Roll.note_accepted]
      exact .accept job cleared unheld (Bool.not_eq_true _ ▸ unsealed) room
    · rw [Roll.note_performed _ a rfl]
      exact .refuse cleared unheld

theorem deed_of_perform {w : World h} (t : Thread) {o : Op h} (pool : b.pool = w.pool)
    (ready : w.isReady t o) (may : (b.stage a).MayPerform o) :
    Deed a b ⟨b.roll.note a (.performed o (w.answer t o).1), (w.answer t o).2.pool⟩ := by
  obtain ⟨l, p⟩ := b
  subst pool
  by_cases elsewhere : o.IsElsewhere
  · rw [w.answer_elsewhere t elsewhere]
    have free := Stage.free_of_elsewhere elsewhere may
    rw [Roll.note_of_free free]
    · exact .same
    · cases o <;> first | exact elsewhere.elim | rfl
    · cases o <;> first | exact elsewhere.elim | rfl
  cases o with
  | isClosed =>
    show Deed a _ ⟨l.note a (.performed .isClosed w.pool.closed), w.pool⟩
    cases w.pool.closed with
    | true =>
      rw [Roll.note_of_free may rfl rfl]
      exact .same
    | false =>
      rw [Roll.note_performed l a rfl]
      exact .clear may
  | enqueue job => exact deed_of_enqueue job may (Bool.not_eq_true' _ ▸ ready)
  | tally c =>
    obtain ⟨free, rfl⟩ := may
    rw [Roll.note_of_free free rfl rfl]
    exact .tally free
  | settle c =>
    rw [Roll.note_performed l a rfl]
    rcases may with ⟨accepted, rfl⟩ | ⟨refused, rfl⟩
    · exact .countAccepted accepted
    · exact .countRefused refused
  | close =>
    rw [Roll.note_of_free may rfl rfl]
    exact .close may
  | sealQueue =>
    rw [Roll.note_performed l a rfl]
    exact .closeQueue may (Bool.not_eq_true' _ ▸ ready)
  | join =>
    rw [Roll.note_performed l a rfl]
    show Deed a _ ⟨{ l with stage := Function.update l.stage a (if !w.pool.joined then _ else _) },
      { w.pool with joined := true }⟩
    cases joined : w.pool.joined with
    | true =>
      have same : { w.pool with joined := true } = w.pool := by rw [← joined]
      rw [same]
      exact .pass may
    | false => exact .wait may joined
  | awaitDrained =>
    rw [Roll.note_performed l a rfl]
    exact .drain may
  | _ => exact absurd trivial elsewhere

theorem deed_of_call (c : Call h) (free : b.stage a = .free) :
    Deed a b { b with roll := b.roll.note a (.called c) } := by
  rw [Roll.note_called free]
  exact .same

theorem deed_of_take {n : Nat} {job : Job h} {pool : Pool h} (free : b.stage (.worker n) = .free)
    (idle : n ∉ b.pool.busy) (take : b.pool.take n = some (job, pool)) :
    Deed (.worker n) b ⟨b.roll.note (.worker n) (.took job), pool⟩ := by
  obtain ⟨rest, queue, rfl⟩ := Pool.take_spec take
  have still : Stage.after (.took job) = b.roll.stage (.worker n) := free.symm
  simp only [Roll.note, still, Function.update_eq_self, Occurrence.acceptedJob,
    Occurrence.takenJob, List.append_nil]
  exact .take n job rest queue idle

theorem deed_of_return {n : Nat} (free : b.stage (.errand n) = .free) :
    Deed (.errand n) b { b with roll := b.roll.note (.errand n) .ended } := by
  have still : Stage.after (.ended (h := h)) = b.roll.stage (.errand n) := free.symm
  simp only [Roll.note, still, Function.update_eq_self, Occurrence.acceptedJob,
    Occurrence.takenJob, List.append_nil]
  exact .same

theorem deed_of_finish {n : Nat} (free : b.stage (.worker n) = .free) (runs : n ∈ b.pool.busy)
    {c : Counter} (outcome : c = .completed ∨ c = .panicked) :
    Deed (.worker n) b ⟨b.roll.note (.worker n) .ended, b.pool.finish n c⟩ := by
  have still : Stage.after (.ended (h := h)) = b.roll.stage (.worker n) := free.symm
  simp only [Roll.note, still, Function.update_eq_self, Occurrence.acceptedJob,
    Occurrence.takenJob, List.append_nil]
  exact .finish n c outcome runs

end Inventory

theorem Program.stage_of_over {β : Type} {p : Program h β} {s : Stage}
    (keeps : p.Keeps Stage.offering s ((Stage.offering (h := h)).Returns .free))
    (finished : p.IsOver) : s = .free := by
  cases p with
  | done b => exact keeps
  | panic e => exact keeps
  | perform o next => exact finished.elim
  | call c next => exact finished.elim

namespace Machine

def Manned (m : Machine h α) : Prop :=
  ∀ n, n ∈ m.world.pool.busy ↔ (m.running? (.worker n)).isSome

theorem finishErrand_pool {w w' : World h} {n : Nat} {p : Program h h.Result}
    (hw : finishErrand w n p = some w') : w'.pool = w.pool := by
  obtain ⟨returned, rfl⟩ := finishErrand_concerns hw
  rfl

theorem finishJob_pool {w w' : World h} {n : Nat} {p : Program h Unit}
    (hw : finishJob w n p = some w') :
    ∃ c, (c = .completed ∨ c = .panicked) ∧ w'.pool = w.pool.finish n c := by
  obtain ⟨c, trail, outcome, rfl⟩ := finishJob_concerns hw
  exact ⟨c, outcome, rfl⟩

end Machine

namespace Course

variable {app : Application h} {s : Course h α} {a : Actor} {m : Machine h α} {o : Occurrence h}

def inventory (s : Course h α) : Inventory h := ⟨.of s.history, s.world.pool⟩

theorem inventory_deed (keeps : s.machine.Keeps Stage.offering s.inventory.stage)
    (manned : s.machine.Manned) (turned : Machine.Turned app s.machine a m o) :
    s.inventory.Deed a (inventory ⟨m, (a, o) :: s.history⟩) := by
  cases turned with
  | @performed β t o next before after world ready =>
    have deed := Inventory.deed_of_perform (b := s.inventory) (w := s.world) t rfl ready
      ((keeps a).1 _ before).1
    simp only [inventory, Course.world, world]
    exact deed
  | @called β t c next before after world =>
    have deed := Inventory.deed_of_call (b := s.inventory) c ((keeps a).1 _ before).1
    simp only [inventory, Course.world, world]
    exact deed
  | @took n job pool actor before take after world =>
    subst actor
    have idle : n ∉ s.machine.world.pool.busy := by
      rw [manned n, before]
      exact Bool.false_ne_true
    have deed := Inventory.deed_of_take (b := s.inventory) ((keeps _).2 before) idle take
    simp only [inventory, Course.world, world]
    exact deed
  | @ended r before finished after world =>
    have free : s.inventory.stage a = .free := Program.stage_of_over ((keeps a).1 r before) finished
    rcases world with ⟨n, p, rfl, hw⟩ | ⟨n, p, rfl, -, hw⟩
    · have deed := Inventory.deed_of_return (b := s.inventory) free
      simp only [inventory, Course.world, Machine.finishErrand_pool hw]
      exact deed
    · obtain ⟨c, outcome, pool⟩ := Machine.finishJob_pool hw
      have runs : n ∈ s.machine.world.pool.busy := by
        rw [manned n, before]
        rfl
      have deed := Inventory.deed_of_finish (b := s.inventory) free runs outcome
      simp only [inventory, Course.world, pool]
      exact deed

end Course
end EventDispatch
