import EventDispatch.Dispatch.Error
import EventDispatch.Route.Table

namespace EventDispatch

structure DispatchOptions where
  driver : Option Driver
  topic : Option String
  key : Option String
  asynchronous : Bool
  trace : Option String
deriving DecidableEq

namespace DispatchOptions

def empty : DispatchOptions := ⟨none, none, none, false, none⟩

/-- Deliver in-process, whatever the routes say. -/
def inMemory : DispatchOptions := { empty with driver := some .memory }

inductive Choice where
  | driver (d : Driver)
  | external (topic : String)
  | topic (topic : String)
  | key (key : String)
  | asynchronous (on : Bool)
  | trace (id : String)
deriving DecidableEq

def choose (o : DispatchOptions) : Choice → DispatchOptions
  | .driver d => { o with driver := some d }
  | .external topic => { o with driver := some .external, topic := some topic }
  | .topic topic => { o with topic := some topic }
  | .key key => { o with key := some key }
  | .asynchronous on => { o with asynchronous := on }
  | .trace id => { o with trace := some id }

def ofChoices (cs : List Choice) : DispatchOptions := cs.foldl choose empty

end DispatchOptions

structure DispatchPlan where
  driver : Driver
  topic : Option String
  key : String
  asynchronous : Bool
  trace : Option String
deriving DecidableEq

namespace DispatchPlan

/-- The driver and the topic, before an empty topic is left out. -/
def target (o : DispatchOptions) (route : Option Route) : Driver × Option String :=
  match o.driver, route with
  | some driver, _ => (driver, o.topic)
  | none, some route => (route.driver, o.topic.or route.topic)
  | none, none => (.memory, o.topic)

/-- A chosen driver beats the route, and without either the event stays in memory. An external plan
has a topic. -/
def resolve (event : String) (o : DispatchOptions) (route : Option Route) :
    Except DispatchError DispatchPlan :=
  let (driver, topic) := target o route
  let topic := Text.filled topic
  if driver = .external ∧ topic = none then .error (.topicRequired event)
  else .ok {
    driver, topic
    key := (Text.filled o.key).getD event
    asynchronous := o.asynchronous
    trace := Text.filled o.trace }

end DispatchPlan
end EventDispatch
