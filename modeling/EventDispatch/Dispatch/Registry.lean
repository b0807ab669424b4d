import EventDispatch.Context
import EventDispatch.Dispatch.Interceptor
import EventDispatch.Keyed

namespace EventDispatch

inductive Handler (h : Host) where
  | plain (code : h.Listener)
  /-- For events of one type; raw events are decoded into it first. -/
  | typed (type : EventType) (code : h.Listener)

structure ListenOptions where
  priority : Int
  asynchronous : Bool
  once : Bool
deriving DecidableEq

structure Entry (h : Host) where
  id : Nat
  handler : Handler h
  options : ListenOptions

/-- The entries under a name stand in order of priority, ties in order of subscription. Claims are made
by id: every delivery that holds an entry sees its claim, also after the entry has left the registry. -/
structure Registry (h : Host) where
  listeners : Keyed (List (Entry h))
  interceptors : List (Interceptor h)
  claimed : List Nat

/-- What one delivery works with, whatever changes in the registry meanwhile. -/
structure Snapshot (h : Host) where
  entries : List (Entry h)
  interceptors : List (Interceptor h)

namespace Registry

variable {h : Host}

def empty : Registry h := ⟨.empty, [], []⟩

def entries (r : Registry h) (name : String) : List (Entry h) := (r.listeners.find? name).getD []

def byPriority (a b : Entry h) : Bool := a.options.priority ≤ b.options.priority

/-- Puts a list under a name; a name without entries is not kept. -/
def put (r : Registry h) (name : String) (es : List (Entry h)) : Registry h :=
  { r with listeners :=
      if es.isEmpty then r.listeners.erase name else r.listeners.insert name es }

def insert (r : Registry h) (name : String) (e : Entry h) : Registry h :=
  r.put name ((r.entries name ++ [e]).mergeSort byPriority)

def removeAll (r : Registry h) (name : String) (ids : List Nat) : Registry h :=
  r.put name ((r.entries name).filter fun e => !ids.contains e.id)

def contains (r : Registry h) (name : String) (id : Nat) : Bool :=
  (r.entries name).any (·.id == id)

def count (r : Registry h) (name : String) : Nat := (r.entries name).length

def names (r : Registry h) : List String := r.listeners.keys

def intercept (r : Registry h) (i : Interceptor h) : Registry h :=
  { r with interceptors := r.interceptors ++ [i] }

def snapshot (r : Registry h) (name : String) : Snapshot h := ⟨r.entries name, r.interceptors⟩

/-- Whether the caller may run the entry. A `once` entry is granted to one caller. -/
def claim (r : Registry h) (e : Entry h) : Bool × Registry h :=
  if !e.options.once then (true, r)
  else if r.claimed.contains e.id then (false, r)
  else (true, { r with claimed := e.id :: r.claimed })

/-- Gives a claim back whose run never began. -/
def release (r : Registry h) (e : Entry h) : Registry h :=
  if e.options.once then { r with claimed := r.claimed.filter (· != e.id) } else r

def isSpent (r : Registry h) (e : Entry h) : Bool := e.options.once && r.claimed.contains e.id

def spent (r : Registry h) (es : List (Entry h)) : List Nat := (es.filter r.isSpent).map (·.id)

end Registry
end EventDispatch
