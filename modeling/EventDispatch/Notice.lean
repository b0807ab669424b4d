namespace EventDispatch

inductive Level where
  | error
  | warn
  | info
  | debug
  | trace
deriving DecidableEq

namespace Level

def rank : Level → Nat
  | .error => 0
  | .warn => 1
  | .info => 2
  | .debug => 3
  | .trace => 4

def name : Level → String
  | .error => "ERROR"
  | .warn => "WARN"
  | .info => "INFO"
  | .debug => "DEBUG"
  | .trace => "TRACE"

end Level

inductive NoticeValue where
  | text (s : String)
  | number (n : Int)
  | flag (b : Bool)
deriving DecidableEq

inductive WorkKind where
  | listener
  | dispatch
  | publish
deriving DecidableEq

def WorkKind.name : WorkKind → String
  | .listener => "listener"
  | .dispatch => "dispatch"
  | .publish => "publish"

inductive Notice where
  | started (poolSize : Nat) (forceSync : Bool) (routes : Nat) (publisher : Bool)
  | shutDown
  | patternSkipped (pattern : String)
  | tableLoaded (routes : Nat)
  | settingsFixed (current requested : Nat) (forceSync : Bool)
  | nameIgnored
  | subscribed (event : String) (id : Nat) (priority : Int)
  | workDropped (event : String) (kind : WorkKind) (error : String)
  | listenerFailed (event : String) (id : Nat) (error : String)
  | dispatchFailed (event error : String)
  | publishFailed (event topic error : String)
  | jobPanicked (text : String)
  | dispatching (event trace : String)
  | dispatched (event : String)
  | stopped (event : String)
  | failed (event error : String)
  | filteredOut (event : String)
  | published (topic key event trace payload : String)
  | pollFailed (error : String)
  | ackFailed (id error : String)
  | nackFailed (id error : String)
  | messageFailed (id event error : String)
deriving DecidableEq

namespace Notice

def level : Notice → Level
  | .started .. => .debug
  | .shutDown => .debug
  | .patternSkipped _ => .warn
  | .tableLoaded _ => .debug
  | .settingsFixed .. => .info
  | .nameIgnored => .warn
  | .subscribed .. => .trace
  | .workDropped .. => .warn
  | .listenerFailed .. => .error
  | .dispatchFailed .. => .error
  | .publishFailed .. => .error
  | .jobPanicked _ => .error
  | .dispatching .. => .debug
  | .dispatched _ => .debug
  | .stopped _ => .debug
  | .failed .. => .warn
  | .filteredOut _ => .trace
  | .published .. => .info
  | .pollFailed _ => .warn
  | .ackFailed .. => .warn
  | .nackFailed .. => .warn
  | .messageFailed .. => .error

def message : Notice → String
  | .started .. => "dispatcher started"
  | .shutDown => "dispatcher shut down"
  | .patternSkipped _ => "skipping empty route pattern"
  | .tableLoaded _ => "route table loaded"
  | .settingsFixed .. => "pool settings require a new dispatcher"
  | .nameIgnored => "ignoring subscription with an empty event name"
  | .subscribed .. => "subscribed"
  | .workDropped .. => "async work dropped"
  | .listenerFailed .. => "async listener failed"
  | .dispatchFailed .. => "async dispatch failed"
  | .publishFailed .. => "async publish failed"
  | .jobPanicked _ => "pool job panicked"
  | .dispatching .. => "dispatching"
  | .dispatched _ => "dispatched"
  | .stopped _ => "propagation stopped"
  | .failed .. => "dispatch failed"
  | .filteredOut _ => "filtered out"
  | .published .. => "publish"
  | .pollFailed _ => "consumer poll failed"
  | .ackFailed .. => "ack failed"
  | .nackFailed .. => "nack failed"
  | .messageFailed .. => "consumed message failed"

def fields : Notice → List (String × NoticeValue)
  | .started poolSize forceSync routes publisher =>
    [("pool_size", .number poolSize), ("force_sync", .flag forceSync), ("routes", .number routes),
      ("publisher", .flag publisher)]
  | .shutDown => []
  | .patternSkipped pattern => [("pattern", .text pattern)]
  | .tableLoaded routes => [("routes", .number routes)]
  | .settingsFixed current requested forceSync =>
    [("current", .number current), ("requested", .number requested),
      ("force_sync", .flag forceSync)]
  | .nameIgnored => []
  | .subscribed event id priority =>
    [("event", .text event), ("id", .number id), ("priority", .number priority)]
  | .workDropped event kind error =>
    [("event", .text event), ("kind", .text kind.name), ("error", .text error)]
  | .listenerFailed event id error =>
    [("event", .text event), ("id", .number id), ("error", .text error)]
  | .dispatchFailed event error => [("event", .text event), ("error", .text error)]
  | .publishFailed event topic error =>
    [("event", .text event), ("topic", .text topic), ("error", .text error)]
  | .jobPanicked text => [("panic", .text text)]
  | .dispatching event trace => [("event", .text event), ("trace_id", .text trace)]
  | .dispatched event => [("event", .text event)]
  | .stopped event => [("event", .text event)]
  | .failed event error => [("event", .text event), ("error", .text error)]
  | .filteredOut event => [("event", .text event)]
  | .published topic key event trace payload =>
    [("topic", .text topic), ("key", .text key), ("event", .text event), ("trace_id", .text trace),
      ("payload", .text payload)]
  | .pollFailed error => [("error", .text error)]
  | .ackFailed id error => [("id", .text id), ("error", .text error)]
  | .nackFailed id error => [("id", .text id), ("error", .text error)]
  | .messageFailed id event error =>
    [("id", .text id), ("event", .text event), ("error", .text error)]

end Notice
end EventDispatch
