import EventDispatch.Dispatch.Script

namespace EventDispatch

/-- What an interceptor decides: to end the chain with a result, or to go on and look at the result
of the rest. -/
inductive Verdict (h : Host) where
  | finish (r : ListenerResult)
  | proceed (ctx : Context) (event : Event) (after : ListenerResult → Script h ListenerResult)

namespace Verdict

variable {h : Host}

/-- Tells the log how each delivery went. -/
def logging (ctx : Context) (event : Event) : Script h (Verdict h) := do
  Script.log (.dispatching event.name (ctx.trace?.getD ""))
  return .proceed ctx event fun r => do
    match r with
    | .ok () => Script.log (.dispatched event.name)
    | .error .stopPropagation => Script.log (.stopped event.name)
    | .error e => Script.log (.failed event.name e.message)
    return r

def metrics (mark : String → Outcome → h.Mark) (ctx : Context) (event : Event) :
    Script h (Verdict h) :=
  return .proceed ctx event fun r => do
    Script.act (.mark (mark event.name (.of r)))
    return r

/-- Drops an event without a failure. -/
def filter (keeps : Context → Event → Bool) (ctx : Context) (event : Event) :
    Script h (Verdict h) := do
  if keeps ctx event then return .proceed ctx event fun r => return r
  Script.log (.filteredOut event.name)
  return .finish (.ok ())

end Verdict

structure Application (h : Host) where
  listen : h.Listener → Context → Event → Script h ListenerResult
  intercept : h.Interceptor → Context → Event → Script h (Verdict h)
  run : h.Errand → Script h h.Result

namespace Application

variable {h : Host}

def typedEvent (t : EventType) : Event → Except ListenerError TypedEvent
  | .typed e =>
    if e.type = t then .ok e else .error (.rejected (e.type.eventName ++ " is not a " ++ t.typeName))
  | .raw e =>
    match t.decode e.payload with
    | .ok e => .ok e
    | .error e => .error (.other e.message)
  | .foreign e => .error (.rejected (e.name ++ " is not a " ++ t.typeName))

def runListener (app : Application h) (handler : Handler h) (ctx : Context) (event : Event) :
    Script h ListenerResult :=
  match handler with
  | .plain code => app.listen code ctx event
  | .typed t code =>
    match typedEvent t event with
    | .ok e => app.listen code ctx (.typed e)
    | .error e => return .error e

def verdict (app : Application h) (i : Interceptor h) (ctx : Context) (event : Event) :
    Script h (Verdict h) :=
  match i with
  | .logging => Verdict.logging ctx event
  | .metrics mark => Verdict.metrics mark ctx event
  | .filter keeps => Verdict.filter keeps ctx event
  | .custom code => app.intercept code ctx event

def runInterceptor (app : Application h) (i : Interceptor h) (next : Next h) (ctx : Context)
    (event : Event) : Program h ListenerResult := do
  match ← (app.verdict i ctx event).program with
  | .finish r => return r
  | .proceed ctx event after =>
    let r ← Delivery.proceed next ctx event
    (after r).program

/-- The program that a call stands for. -/
def body (app : Application h) : Call h → Program h ListenerResult
  | .listener entry ctx event => (app.runListener entry.handler ctx event).program
  | .interceptor i next ctx event => app.runInterceptor i next ctx event

end Application
end EventDispatch
