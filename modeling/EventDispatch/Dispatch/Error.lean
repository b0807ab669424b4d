import EventDispatch.Broker.Message
import EventDispatch.Json.Error

namespace EventDispatch

inductive ListenerError where
  /-- No failure: the remaining listeners are not called. -/
  | stopPropagation
  | rejected (reason : String)
  | cancelled
  | other (reason : String)
deriving DecidableEq

namespace ListenerError

def message : ListenerError → String
  | .stopPropagation => "propagation stopped"
  | .rejected reason => "rejected: " ++ reason
  | .cancelled => "cancelled"
  | .other reason => "listener error: " ++ reason

def isStop (e : ListenerError) : Bool := e == .stopPropagation

end ListenerError

abbrev ListenerResult := Except ListenerError Unit

inductive DispatchError where
  | topicRequired (event : String)
  | publisherMissing (event : String)
  | listener (event : String) (source : ListenerError)
  | serialization (source : Json.Error)
  | decode (source : Json.Error)
  | publish (source : PublishError)
deriving DecidableEq

def DispatchError.message : DispatchError → String
  | .topicRequired event => "topic required for external delivery of " ++ event
  | .publisherMissing event => "no publisher configured for external delivery of " ++ event
  | .listener event source => "listener failed for " ++ event ++ ": " ++ source.message
  | .serialization source => "serialization failed: " ++ source.message
  | .decode source => "decode failed: " ++ source.message
  | .publish source => source.message

abbrev DispatchResult := Except DispatchError Unit

inductive PoolError where
  | exhausted (capacity : Nat)
  | closed
deriving DecidableEq

def PoolError.message : PoolError → String
  | .exhausted capacity =>
    "worker pool exhausted: " ++ Nat.repr capacity ++ " jobs already queued"
  | .closed => "worker pool is shut down"

inductive ConsumeError where
  | decode (id : String) (source : Json.Error)
  | dispatch (id : String) (source : DispatchError)
  | broker (source : PublishError)
deriving DecidableEq

def ConsumeError.message : ConsumeError → String
  | .decode id source => "malformed envelope in message " ++ id ++ ": " ++ source.message
  | .dispatch id source => "dispatch of message " ++ id ++ " failed: " ++ source.message
  | .broker source => "broker error: " ++ source.message

end EventDispatch
