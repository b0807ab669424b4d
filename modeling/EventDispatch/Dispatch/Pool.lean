import EventDispatch.Broker.Message
import EventDispatch.Dispatch.Error
import EventDispatch.Dispatch.Registry
import EventDispatch.Notice

namespace EventDispatch

inductive Job (h : Host) where
  | listener (entry : Entry h) (ctx : Context) (event : Event)
  | dispatch (ctx : Context) (event : Event)
  | publish (ctx : Context) (message : Message)

inductive Counter where
  | submitted
  | completed
  | panicked
  | rejected
deriving DecidableEq

structure PoolStats where
  submitted : Nat
  completed : Nat
  panicked : Nat
  rejected : Nat
deriving DecidableEq

namespace PoolStats

def zero : PoolStats := ⟨0, 0, 0, 0⟩

def read (s : PoolStats) : Counter → Nat
  | .submitted => s.submitted
  | .completed => s.completed
  | .panicked => s.panicked
  | .rejected => s.rejected

def bump (s : PoolStats) : Counter → PoolStats
  | .submitted => { s with submitted := s.submitted + 1 }
  | .completed => { s with completed := s.completed + 1 }
  | .panicked => { s with panicked := s.panicked + 1 }
  | .rejected => { s with rejected := s.rejected + 1 }

end PoolStats

/-- Accepting a job and counting it are separate steps, and so are closing the pool and closing its
queue. The queue is closed between two submissions, never within one. -/
structure Pool (h : Host) where
  size : Nat
  capacity : Nat
  queue : List (Job h)
  /-- The workers that run a job. -/
  busy : List Nat
  /-- No submission that begins now is accepted. -/
  closed : Bool
  /-- The queue takes no more jobs. -/
  sealed : Bool
  /-- A job was offered, and what became of it is yet to be counted. Nobody else has the queue before. -/
  held : Bool
  /-- Someone waits, or has waited, for the workers to end. -/
  joined : Bool
  stats : PoolStats

namespace Pool

variable {h : Host}

def start (size capacity : Nat) : Pool h := ⟨size, capacity, [], [], false, false, false, false, .zero⟩

def enqueue (p : Pool h) (job : Job h) : Except PoolError Unit × Pool h :=
  if p.sealed then (.error .closed, { p with held := true })
  else if p.queue.length < p.capacity then
    (.ok (), { p with queue := p.queue ++ [job], held := true })
  else (.error (.exhausted p.capacity), { p with held := true })

/-- An idle worker takes the job that waits longest. -/
def take (p : Pool h) (worker : Nat) : Option (Job h × Pool h) :=
  match p.queue with
  | [] => none
  | job :: rest => some (job, { p with queue := rest, busy := worker :: p.busy })

def finish (p : Pool h) (worker : Nat) (outcome : Counter) : Pool h :=
  { p with busy := p.busy.filter (· != worker), stats := p.stats.bump outcome }

def count (p : Pool h) (c : Counter) : Pool h := { p with stats := p.stats.bump c }

/-- Counts what became of the job that was offered, and lets go of the queue. -/
def settle (p : Pool h) (c : Counter) : Pool h := { p with held := false, stats := p.stats.bump c }

/-- Every worker but the one that asks has ended, which it does once the queue is empty. -/
def isDrained (p : Pool h) (asking : Option Nat) : Bool :=
  match asking with
  | none => p.queue.isEmpty && p.busy.isEmpty
  | some worker =>
    p.busy.all (· == worker) && (p.queue.isEmpty || p.size == 1)

end Pool
end EventDispatch
