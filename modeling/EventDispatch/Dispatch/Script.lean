import EventDispatch.Dispatch.Request

namespace EventDispatch

/-- The application's own code, as a tree of requests. -/
inductive Script (h : Host) (α : Type) where
  | done (a : α)
  | panic (p : Panic)
  | request (r : Request h) (next : r.Answer → Script h α)

namespace Script

variable {h : Host} {α β : Type}

def bind : Script h α → (α → Script h β) → Script h β
  | .done a, f => f a
  | .panic p, _ => .panic p
  | .request r next, f => .request r fun a => (next a).bind f

instance : Monad (Script h) where
  pure := .done
  bind := .bind

def ask (r : Request h) : Script h r.Answer := .request r .done

def act (o : HostOp h) : Script h o.Answer := .request (.host o) .done

def log (n : Notice) : Script h Unit := act (.log n)

def program : Script h α → Program h α
  | .done a => .done a
  | .panic p => .panic p
  | .request r next => r.program.bind fun a => (next a).program

end Script

end EventDispatch
