import EventDispatch.Dispatch.Application
import EventDispatch.Dispatch.World

namespace EventDispatch

namespace Program

variable {h : Host} {α : Type}

/-- One step of thread `t`. A finished program takes none, a waiting one none yet. -/
def step (app : Application h) (t : Thread) (p : Program h α) (w : World h) :
    Option (Program h α × World h) :=
  match p with
  | .done _ => none
  | .panic _ => none
  | .perform o next =>
    if w.isReady t o then
      let (a, w) := w.answer t o
      some (next a, w)
    else none
  | .call c next => some ((app.body c).bind next, w)

end Program

inductive Actor where
  | caller (n : Nat)
  | errand (n : Nat)
  | worker (n : Nat)
deriving DecidableEq

/-- Threads that run side by side. A turn is one step of one thread; every interleaving is a list of
turns, and `run` is the one where callers go first. -/
structure Machine (h : Host) (α : Type) where
  world : World h
  callers : List (Thread × Program h α)
  /-- The threads of errands, by number, while they are on their way. -/
  errands : List (Option (Program h h.Result))
  workers : List (Option (Program h Unit))

namespace Machine

variable {h : Host} {α : Type}

def idle (w : World h) : Machine h α := ⟨w, [], [], List.replicate w.pool.size none⟩

/-- After a step on the shared state, every errand that it sent has a thread. -/
def enter (app : Application h) (m : Machine h α) (world : World h) : Machine h α :=
  { m with
    world
    errands := m.errands ++ (world.errands.drop m.errands.length).map fun e => some (app.run e).program }

/-- The end of an errand, which is there to be fetched. -/
def finishErrand (w : World h) (n : Nat) : Program h h.Result → Option (World h)
  | .done r => some { w with returned := (n, .ok r) :: w.returned }
  | .panic p => some { w with returned := (n, .error p) :: w.returned }
  | _ => none

/-- The end of a job, which the pool counts. A panic ends the job and not the worker. -/
def finishJob (w : World h) (n : Nat) : Program h Unit → Option (World h)
  | .done () => some { w with pool := w.pool.finish n .completed }
  | .panic p =>
    some ({ w with pool := w.pool.finish n .panicked }.notice (.worker n) (.jobPanicked p.describe))
  | _ => none

def callerTurn (app : Application h) (m : Machine h α) (n : Nat) : Option (Machine h α) := do
  let (t, p) ← m.callers[n]?
  let (p, world) ← p.step app t m.world
  some ({ m with callers := m.callers.set n (t, p) }.enter app world)

def errandTurn (app : Application h) (m : Machine h α) (n : Nat) : Option (Machine h α) := do
  let p ← (← m.errands[n]?)
  match finishErrand m.world n p with
  | some world => some { m with world, errands := m.errands.set n none }
  | none =>
    let (p, world) ← p.step app (.errand n) m.world
    some ({ m with errands := m.errands.set n (some p) }.enter app world)

def workerTurn (app : Application h) (m : Machine h α) (n : Nat) : Option (Machine h α) := do
  match ← m.workers[n]? with
  | none =>
    let (job, pool) ← m.world.pool.take n
    some { m with world := { m.world with pool }, workers := m.workers.set n (some job.program) }
  | some p =>
    match finishJob m.world n p with
    | some world => some { m with world, workers := m.workers.set n none }
    | none =>
      let (p, world) ← p.step app (.worker n) m.world
      some ({ m with workers := m.workers.set n (some p) }.enter app world)

def turn (app : Application h) (m : Machine h α) : Actor → Option (Machine h α)
  | .caller n => m.callerTurn app n
  | .errand n => m.errandTurn app n
  | .worker n => m.workerTurn app n

def isPausing : Option (Program h h.Result) → Bool
  | some (.perform (.host .pause) _) => true
  | _ => false

/-- Who may go, in order of preference: callers, errands, workers with a job, idle workers, errands
that pause. Errands take turns with each other, and so do busy workers. -/
def actors (m : Machine h α) (round : Nat) : List Actor :=
  let (pausing, going) := m.errands.zipIdx.partition fun e => isPausing e.1
  let (busy, idle) := m.workers.zipIdx.partition fun w => w.1.isSome
  (List.range m.callers.length).map .caller ++
    (going.map (.errand ·.2)).rotateLeft round ++
    (busy.map (.worker ·.2)).rotateLeft round ++
    idle.map (.worker ·.2) ++
    pausing.map (.errand ·.2)

/-- Takes turns until no thread can take one; `fuel` bounds their number. -/
def run (app : Application h) : Nat → Machine h α → Machine h α
  | 0, m => m
  | fuel + 1, m =>
    match (m.actors fuel).findSome? (m.turn app) with
    | some m => run app fuel m
    | none => m

end Machine
end EventDispatch
