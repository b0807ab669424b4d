import EventDispatch.Context
import EventDispatch.Dispatch.Error
import EventDispatch.Event.Basic

namespace EventDispatch

/-- What an application brings: its kinds of listener and interceptor, the errands on which it sends
threads and what they bring back, a state of its own, and the marks it leaves in the trail. -/
structure Host where
  Listener : Type
  Interceptor : Type
  Errand : Type
  Result : Type
  State : Type
  Mark : Type

/-- How a delivery ended, as an interceptor sees it. -/
inductive Outcome where
  | succeeded
  | stopped
  | failed
deriving DecidableEq

namespace Outcome

def of : ListenerResult → Outcome
  | .ok () => .succeeded
  | .error .stopPropagation => .stopped
  | .error _ => .failed

def name : Outcome → String
  | .succeeded => "succeeded"
  | .stopped => "stopped"
  | .failed => "failed"

end Outcome

inductive Interceptor (h : Host) where
  | logging
  /-- Records every delivery that reaches it. -/
  | metrics (mark : String → Outcome → h.Mark)
  | filter (keeps : Context → Event → Bool)
  | custom (code : h.Interceptor)

end EventDispatch
