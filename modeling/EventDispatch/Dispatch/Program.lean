import EventDispatch.Broker.BusCall
import EventDispatch.Config.Basic
import EventDispatch.Dispatch.Options
import EventDispatch.Dispatch.Pool
import EventDispatch.TypeRegistry

namespace EventDispatch

inductive Thread where
  | main
  | errand (n : Nat)
  | worker (n : Nat)
deriving DecidableEq

inductive Publisher where
  | bus
  | buffer
  | log
  | failing (e : PublishError)
deriving DecidableEq

inductive Panic where
  | text (s : String)
  | value
deriving DecidableEq

/-- How a panic is told where it is caught on the pool. -/
def Panic.describe : Panic → String
  | .text s => s
  | .value => "non-string panic payload"

/-- What is fixed when a dispatcher is made. -/
structure Settings where
  poolSize : Nat
  forceSync : Bool
  publisher : Option Publisher
deriving DecidableEq

/-- Steps that application code may take itself. -/
inductive HostOp (h : Host) where
  | names
  | count (name : String)
  | intercept (i : Interceptor h)
  | table
  | types
  | register (t : EventType)
  | settings
  | openScope
  | cancelScope (scope : Nat)
  | isCancelled (ctx : Context)
  | elapsed
  | bus (c : BusCall)
  | buffer
  | log (n : Notice)
  | mark (m : h.Mark)
  | thread
  /-- Changes the application's state, and answers what it was. -/
  | modify (f : h.State → h.State)
  /-- Waits until the application's state is as it should be. -/
  | await (ready : h.State → Bool)
  /-- Sends a new thread on an errand, and answers its number. -/
  | send (e : h.Errand)
  /-- Waits until an errand is over, and answers its result or the panic that ended it. -/
  | fetch (errand : Nat)
  /-- Lets all other threads go first. -/
  | pause

abbrev HostOp.Answer {h : Host} : HostOp h → Type
  | .names => List String
  | .count _ => Nat
  | .intercept _ => Unit
  | .table => RouteTable
  | .types => TypeRegistry
  | .register _ => Except TypeConflict Unit
  | .settings => Settings
  | .openScope => Nat
  | .cancelScope _ => Unit
  | .isCancelled _ => Bool
  | .elapsed => Nat
  | .bus c => c.Answer
  | .buffer => List String
  | .log _ => Unit
  | .mark _ => Unit
  | .thread => Thread
  | .modify _ => h.State
  | .await _ => Unit
  | .send _ => Nat
  | .fetch _ => Option (Except Panic h.Result)
  | .pause => Unit

inductive Op (h : Host) where
  | host (o : HostOp h)
  | takeId
  | insert (name : String) (e : Entry h)
  | removeAll (name : String) (ids : List Nat)
  | contains (name : String) (id : Nat)
  /-- Uses up a subscription's handle, and answers whether it was unused. -/
  | retire (id : Nat)
  | isRetired (id : Nat)
  | snapshot (name : String)
  | claim (e : Entry h)
  | release (e : Entry h)
  | spent (es : List (Entry h))
  | loadTable (t : RouteTable)
  | now
  | messageId
  | publish (ctx : Context) (m : Message)
  | isClosed
  | enqueue (job : Job h)
  | tally (c : Counter)
  /-- Counts what became of the job that this thread offered, and lets go of the queue. -/
  | settle (c : Counter)
  | readTally (c : Counter)
  | close
  | sealQueue
  /-- Takes the right to wait for the workers, which one caller gets. -/
  | join
  | awaitDrained

abbrev Op.Answer {h : Host} : Op h → Type
  | .host o => o.Answer
  | .takeId => Nat
  | .insert .. => Unit
  | .removeAll .. => Unit
  | .contains .. => Bool
  | .retire _ => Bool
  | .isRetired _ => Bool
  | .snapshot _ => Snapshot h
  | .claim _ => Bool
  | .release _ => Unit
  | .spent _ => List Nat
  | .loadTable _ => Unit
  | .now => Timestamp
  | .messageId => String
  | .publish .. => Except PublishError Unit
  | .isClosed => Bool
  | .enqueue _ => Except PoolError Unit
  | .tally _ => Unit
  | .settle _ => Unit
  | .readTally _ => Nat
  | .close => Unit
  | .sealQueue => Unit
  | .join => Bool
  | .awaitDrained => Unit

/-- The rest of an interceptor chain, and the listeners at its end. -/
structure Next (h : Host) where
  interceptors : List (Interceptor h)
  entries : List (Entry h)
  /-- The event as it was dispatched, which asynchronous listeners get. -/
  dispatched : Event

inductive Call (h : Host) where
  | listener (entry : Entry h) (ctx : Context) (event : Event)
  | interceptor (i : Interceptor h) (next : Next h) (ctx : Context) (event : Event)

/-- What a thread does, as a tree of atomic steps on the shared state, whose answers pick what comes
next. A call into application code is a step of its own, so a program is finite however often listeners
dispatch again. -/
inductive Program (h : Host) (α : Type) where
  | done (a : α)
  /-- Nothing catches a panic before the end of its thread's work. -/
  | panic (p : Panic)
  | perform (o : Op h) (next : o.Answer → Program h α)
  | call (c : Call h) (next : ListenerResult → Program h α)

namespace Program

variable {h : Host} {α β : Type}

def bind : Program h α → (α → Program h β) → Program h β
  | .done a, f => f a
  | .panic p, _ => .panic p
  | .perform o next, f => .perform o fun a => (next a).bind f
  | .call c next, f => .call c fun r => (next r).bind f

instance : Monad (Program h) where
  pure := .done
  bind := .bind

def op (o : Op h) : Program h o.Answer := .perform o .done

def listen (e : Entry h) (ctx : Context) (event : Event) : Program h ListenerResult :=
  .call (.listener e ctx event) .done

def log (n : Notice) : Program h Unit := op (.host (.log n))

theorem done_bind (a : α) (f : α → Program h β) : (Program.done a).bind f = f a := rfl

theorem bind_done (p : Program h α) : p.bind .done = p := by
  induction p with
  | done a => rfl
  | panic p => rfl
  | perform o next ih => simp only [bind, ih]
  | call c next ih => simp only [bind, ih]

theorem bind_assoc {γ : Type} (p : Program h α) (f : α → Program h β) (g : β → Program h γ) :
    (p.bind f).bind g = p.bind fun a => (f a).bind g := by
  induction p with
  | done a => rfl
  | panic p => rfl
  | perform o next ih => simp only [bind, ih]
  | call c next ih => simp only [bind, ih]

end Program
end EventDispatch
