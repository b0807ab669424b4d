import EventDispatch.Dispatch.Application
import EventDispatch.Dispatch.Consumer
import EventDispatch.Event.Catalog

namespace EventDispatch.Scenario

/-- What a scripted listener or interceptor answers. -/
inductive Ending where
  | ok
  | stop
  | cancelled
  | cancelledIf
  | rejected (reason : String)
  | other (reason : String)
  | panic (p : Panic)
deriving DecidableEq

inductive ContextRef where
  | background
  /-- The context of the listener or interceptor that takes the step. -/
  | inherit
  | named (id : String)
deriving DecidableEq

inductive Derivation where
  | trace (id : String)
  | value (key value : String)
  | cancel (handle : String)
  | deadline (seconds : Nat)
  | timeout (seconds : Nat)
deriving DecidableEq

/-- A step of a listener, on all its calls or on some. -/
structure Action (σ : Type) where
  step : σ
  calls : Option (List Nat)

structure Listener (σ : Type) where
  label : String
  /-- The number of its subscription, by which its calls are counted. -/
  slot : Nat
  endings : List Ending
  actions : List (Action σ)
  /-- Whether it logs the body and the moment of each event. -/
  full : Bool
  /-- The context values it logs. -/
  values : Option (List String)

inductive Detour (σ : Type) where
  | pass
  | skip
  | finish (e : Ending)
  | swallow
  | wrap
  | override (e : Ending)
  | setTrace (id : String)
  | setValue (key value : String)
  | cancel
  | replace (e : Event)
  | act (step : σ)

structure Interceptor (σ : Type) where
  label : String
  detour : Detour σ

inductive Use (σ : Type) where
  | logging
  | metrics (label : String)
  | filter (start : Option String) (trace : Option String)
  | scripted (i : Interceptor σ)

structure Subscribing (σ : Type) where
  name : String
  typed : Option EventType
  options : ListenOptions
  listener : Listener σ

inductive Poll where
  | empty
  | message (m : Message)
  | error (e : PublishError)

/-- A broker made of the answers it gives. -/
structure Feed where
  polls : List Poll
  ackError : Option PublishError
  nackError : Option PublishError

/-- Where a consumer gets its messages: from the bus, as a new subscriber, or from a feed. -/
inductive Supply where
  | bus (topic : Option String)
  | feed (f : Feed)

structure Consuming where
  supply : Supply
  ctx : ContextRef
  expect : Option Nat

/-- An application written as a list of steps, for trying a dispatcher out. -/
inductive Step where
  | subscribe (s : Subscribing Step)
  | unsubscribe (label : String)
  | isActive (label : String)
  | describeSubscription (label : String)
  | count (name : String)
  | names
  | describe
  | hasPublisher
  | drop
  | use (u : Use Step)
  | dispatch (event : Option Event) (options : DispatchOptions) (ctx : ContextRef)
  | concurrent (threads : Nat) (event : Option Event) (options : DispatchOptions)
  | receive (bytes : Bytes) (ctx : ContextRef)
  | envelope (e : Envelope) (ctx : ContextRef)
  | consume (m : Message) (ctx : ContextRef)
  | loadRoutes (entries : List (String × Route))
  | applyConfig (c : Config)
  | routes
  | route (name : String)
  | register (t : EventType)
  | types
  | isRegistered (name : String)
  | context (id : String) (origin : ContextRef) (ops : List Derivation)
  | cancel (handle : String)
  | gate (name : String)
  | openGate (name : String)
  | shutdown
  | busMessages
  | busFail (reason : String)
  | busRecover
  | busPublish (m : Message)
  | buffer
  | consumer (c : Consuming)

def Step.verb : Step → String
  | .subscribe _ => "subscribe"
  | .unsubscribe _ => "unsubscribe"
  | .isActive _ => "is_active"
  | .describeSubscription _ => "sub_debug"
  | .count _ => "count"
  | .names => "names"
  | .describe => "debug"
  | .hasPublisher => "has_publisher"
  | .drop => "drop"
  | .use _ => "use"
  | .dispatch .. => "dispatch"
  | .concurrent .. => "concurrent"
  | .receive .. => "receive"
  | .envelope .. => "envelope"
  | .consume .. => "consume"
  | .loadRoutes _ => "load_routes"
  | .applyConfig _ => "apply_config"
  | .routes => "routes"
  | .route _ => "match"
  | .register _ => "register"
  | .types => "types"
  | .isRegistered _ => "is_registered"
  | .context .. => "ctx"
  | .cancel _ => "cancel"
  | .gate _ => "gate"
  | .openGate _ => "open"
  | .shutdown => "shutdown"
  | .busMessages => "bus_messages"
  | .busFail _ => "bus_fail"
  | .busRecover => "bus_recover"
  | .busPublish _ => "bus_publish"
  | .buffer => "buffer"
  | .consumer _ => "consumer"

inductive Settlement where
  | pollError
  | ack (id : String)
  | nack (id reason : String)
deriving DecidableEq

inductive Reply where
  | unit
  | ok
  | flag (b : Bool)
  | text (s : String)
  | texts (ss : List String)
  | subscribed (isActive : Bool) (name : String)
  | counted (n : Nat)
  | dispatched (r : DispatchResult)
  | panicked (p : Panic)
  | each (rs : List Reply)
  | consumed (r : Except ConsumeError Unit)
  | published (r : Except PublishError Unit)
  | registered (r : Except TypeConflict Unit)
  | configured (r : Except ConfigError Unit)
  | routes (rs : List (String × Route))
  | route (r : Option Route)
  | messages (ms : List Message)
  | settled (stats : ConsumerStats) (acknowledged : List String) (rejected : List (String × String))
  | polled (stats : ConsumerStats) (done : List Settlement)
  | noDispatcher

structure Heard where
  label : String
  event : String
  kind : String
  trace : Option String
  isCancelled : Bool
  body : Option (Except Json.Error RawJson)
  moment : Option Timestamp
  values : Option (List (String × Option String))

/-- Where a consumer at work gets its messages: a subscriber of the bus, or an open feed, by number. -/
inductive Source where
  | subscriber (n : Nat)
  | feed (n : Nat)

inductive Errand where
  | dispatch (event : Option Event) (options : DispatchOptions)
  | consume (source : Source) (ctx : Context) (wanted patience : Nat)

inductive Finding where
  | dispatched (r : DispatchResult)
  | consumed (stats : ConsumerStats)

inductive Mark where
  | heard (e : Heard)
  | acted (label verb : String) (r : Reply)
  | before (label event : String) (trace : Option String)
  | after (label : String) (r : ListenerResult)
  | measured (label event : String) (o : Outcome)

/-- A feed in use: what is left of it, and what was done with it. -/
structure OpenFeed where
  feed : Feed
  done : List Settlement

/-- What the scenario keeps between steps. -/
structure State where
  subscriptions : Keyed Subscription
  contexts : Keyed Context
  handles : Keyed Nat
  calls : List Nat
  /-- The gates that workers stand at, once for each worker. -/
  blocked : List String
  openGates : List String
  isDropped : Bool
  feeds : List OpenFeed

namespace State

def initial : State := ⟨.empty, .empty, .empty, [], [], [], false, []⟩

/-- The context that a step names, taken by code that was called with `ctx`. -/
def context? (s : State) (ctx : Context) : ContextRef → Option Context
  | .background => some .background
  | .inherit => some ctx
  | .named id => s.contexts.find? id

def feed (s : State) (n : Nat) : OpenFeed := s.feeds.getD n ⟨⟨[], none, none⟩, []⟩

end State

def host : Host where
  Listener := Listener Step
  Interceptor := Interceptor Step
  Errand := Errand
  Result := Finding
  State := State
  Mark := Mark

end EventDispatch.Scenario
