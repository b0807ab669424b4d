import EventDispatch.Keyed
import EventDispatch.Text.Blank

namespace EventDispatch

/-- What a caller hands along with an event. Deriving a context changes nothing in the one it starts
from. Times are seconds on the clock of the process. -/
structure Context where
  scopes : List Nat
  deadline : Option Nat
  values : Keyed String
deriving DecidableEq

namespace Context

def traceKey : String := "trace_id"

def background : Context := ⟨[], none, .empty⟩

instance : Inhabited Context := ⟨background⟩

def withScope (ctx : Context) (scope : Nat) : Context :=
  { ctx with scopes := ctx.scopes ++ [scope] }

/-- An earlier deadline stays. -/
def withDeadline (ctx : Context) (deadline : Nat) : Context :=
  { ctx with deadline := some (match ctx.deadline with
      | some current => min current deadline
      | none => deadline) }

def withTimeout (ctx : Context) (now timeout : Nat) : Context := ctx.withDeadline (now + timeout)

def withValue (ctx : Context) (key value : String) : Context :=
  { ctx with values := ctx.values.insert key value }

def withTrace (ctx : Context) (trace : String) : Context := ctx.withValue traceKey trace

def value? (ctx : Context) (key : String) : Option String := ctx.values.find? key

def trace? (ctx : Context) : Option String := Text.filled (ctx.value? traceKey)

/-- A scope it is in was cancelled, or its deadline has come. -/
def isCancelled (ctx : Context) (cancelled : List Nat) (now : Nat) : Bool :=
  ctx.scopes.any cancelled.contains || ctx.deadline.any (· ≤ now)

end Context
end EventDispatch
