import EventDispatch.Dispatch.Control
import EventDispatch.Dispatch.Delivery

namespace EventDispatch

inductive Request (h : Host) where
  | host (o : HostOp h)
  | subscribe (name : String) (handler : Handler h) (options : ListenOptions)
  | unsubscribe (s : Subscription)
  | isActive (s : Subscription)
  | loadRoutes (entries : List (String × Route))
  | applyConfig (c : Config)
  | dispatch (ctx : Context) (event : Option Event) (options : DispatchOptions)
  | dispatchEnvelope (ctx : Context) (envelope : Envelope)
  | receive (ctx : Context) (bytes : Bytes)
  | consume (ctx : Context) (m : Message)
  | stats
  | shutdown

namespace Request

variable {h : Host}

abbrev Answer : Request h → Type
  | .host o => o.Answer
  | .subscribe .. => Subscription
  | .unsubscribe _ => Unit
  | .isActive _ => Bool
  | .loadRoutes _ => Unit
  | .applyConfig _ => Except ConfigError Unit
  | .dispatch .. => DispatchResult
  | .dispatchEnvelope .. => DispatchResult
  | .receive .. => DispatchResult
  | .consume .. => Except ConsumeError Unit
  | .stats => PoolStats
  | .shutdown => Unit

def program : (r : Request h) → Program h r.Answer
  | .host o => Program.op (.host o)
  | .subscribe name handler options => Control.subscribe name handler options
  | .unsubscribe s => Control.unsubscribe s
  | .isActive s => Control.isActive s
  | .loadRoutes entries => Control.loadRoutes entries
  | .applyConfig c => Control.applyConfig c
  | .dispatch ctx event options => Delivery.dispatch ctx event options
  | .dispatchEnvelope ctx envelope => Delivery.dispatchEnvelope ctx envelope
  | .receive ctx bytes => Delivery.receive ctx bytes
  | .consume ctx m => Delivery.consume ctx m
  | .stats => Control.stats
  | .shutdown => Control.shutdown

end Request

end EventDispatch
