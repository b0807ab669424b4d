import EventDispatch.Dispatch.Program

namespace EventDispatch

namespace Delivery

variable {h : Host}

open Program

/-- Puts a job into the queue, unless the pool is closed or its queue is full. -/
def submit (job : Job h) : Program h (Except PoolError Unit) := do
  if ← op .isClosed then
    op (.tally .rejected)
    return .error .closed
  -- The queue is held from here on until the outcome is counted.
  match ← op (.enqueue job) with
  | .ok () =>
    op (.settle .submitted)
    return .ok ()
  | .error e =>
    op (.settle .rejected)
    return .error e

/-- Hands a job to the pool, and answers whether it was accepted. -/
def spawn (event : String) (kind : WorkKind) (job : Job h) : Program h Bool := do
  match ← submit job with
  | .ok () => return true
  | .error e =>
    log (.workDropped event kind e.message)
    return false

def logListenerFailure (id : Nat) (event : Event) : ListenerResult → Program h Unit
  | .ok () => return
  | .error .stopPropagation => return
  | .error e => log (.listenerFailed event.name id e.message)

/-- Runs an asynchronous listener off the chain. A `once` entry that the pool refuses stays
registered for the next dispatch. -/
def spawnListener (ctx : Context) (entry : Entry h) (event : Event) : Program h Unit := do
  if (← op (.host .settings)).forceSync then
    logListenerFailure entry.id event (← listen entry ctx event)
  else if ← spawn event.name .listener (.listener entry ctx event) then
    return
  else op (.release entry)

/-- Calls the listeners in order, up to the first that fails. -/
def callListeners (dispatched : Event) (ctx : Context) (event : Event) :
    List (Entry h) → Program h ListenerResult
  | [] => return .ok ()
  | entry :: rest => do
    if ← op (.claim entry) then
      if entry.options.asynchronous then
        -- Async listeners get the event as it was dispatched, whatever was put in its place on the way.
        spawnListener ctx entry dispatched
        callListeners dispatched ctx event rest
      else
        match ← listen entry ctx event with
        | .ok () => callListeners dispatched ctx event rest
        | .error e => return .error e
    else callListeners dispatched ctx event rest

/-- The rest of a chain: its next interceptor, or the listeners when none is left. -/
def proceed (next : Next h) (ctx : Context) (event : Event) : Program h ListenerResult :=
  match next.interceptors with
  | [] => callListeners next.dispatched ctx event next.entries
  | i :: rest => .call (.interceptor i { next with interceptors := rest } ctx event) .done

def outcome (event : String) : ListenerResult → DispatchResult
  | .ok () => .ok ()
  | .error .stopPropagation => .ok ()
  | .error e => .error (.listener event e)

/-- Runs the chain and the listeners that are registered now, then takes spent entries out of the
registry. -/
def deliver (ctx : Context) (event : Event) : Program h DispatchResult := do
  let snapshot ← op (.snapshot event.name)
  let result ← proceed ⟨snapshot.interceptors, snapshot.entries, event⟩ ctx event
  -- What other deliveries hold a claim on counts as spent here too.
  let ids ← op (.spent snapshot.entries)
  if !ids.isEmpty then op (.removeAll event.name ids)
  return outcome event.name result

def withPlanTrace (ctx : Context) (plan : DispatchPlan) : Context :=
  match plan.trace with
  | some id => ctx.withTrace id
  | none => ctx

def messageFor (id topic key : String) (event : Event) (envelope : Envelope) : Message :=
  let m : Message := ⟨id, topic, key, event.name, envelope.toBytes, []⟩
  match envelope.trace with
  | some trace => m.withHeader Context.traceKey trace
  | none => m

def deliverExternal (ctx : Context) (event : Event) (plan : DispatchPlan) :
    Program h DispatchResult := do
  if (← op (.host .settings)).publisher.isNone then
    return .error (.publisherMissing event.name)
  match plan.topic with
  | none => return .error (.topicRequired event.name)
  | some topic =>
    match Envelope.enclose event (plan.trace.or ctx.trace?) (← op .now) with
    | .error e => return .error (.serialization e)
    | .ok envelope =>
      let m := messageFor (← op .messageId) topic plan.key event envelope
      if plan.asynchronous then
        let _ ← spawn event.name .publish (.publish ctx m)
        return .ok ()
      else
        return (← op (.publish ctx m)).mapError .publish

/-- The route that counts for a dispatch: none when the caller chose a driver. -/
def routeFor (event : Event) (options : DispatchOptions) : Program h (Option Route) := do
  if options.driver.isSome then return none
  return (← op (.host .table)).route? event.name

/-- Listeners of this process or the publisher, at once or on the worker pool, as the plan says.
Failures on the pool are only told to the log. -/
def dispatch (ctx : Context) (event : Option Event) (options : DispatchOptions) :
    Program h DispatchResult := do
  match event with
  | none => return .ok ()
  | some event =>
    match DispatchPlan.resolve event.name options (← routeFor event options) with
    | .error e => return .error e
    | .ok plan =>
      let ctx := withPlanTrace ctx plan
      match plan.driver, plan.asynchronous with
      | .memory, false => deliver ctx event
      | .memory, true =>
        let _ ← spawn event.name .dispatch (.dispatch ctx event)
        return .ok ()
      | .external, _ => deliverExternal ctx event plan

/-- The context's own trace comes before that of the envelope. -/
def withEnvelopeTrace (ctx : Context) (trace : Option String) : Context :=
  match trace, ctx.trace? with
  | some id, none => ctx.withTrace id
  | _, _ => ctx

/-- Rebuilds the event in an envelope and delivers it in this process, whatever the routes say. -/
def dispatchEnvelope (ctx : Context) (envelope : Envelope) : Program h DispatchResult := do
  match (← op (.host .types)).decode envelope with
  | .error e => return .error (.decode e)
  | .ok decoded =>
    dispatch (withEnvelopeTrace ctx decoded.trace) (some decoded.event) .inMemory

def receive (ctx : Context) (bytes : Bytes) : Program h DispatchResult :=
  match Envelope.ofBytes bytes with
  | .error e => return .error (.decode e)
  | .ok envelope => dispatchEnvelope ctx envelope

def consume (ctx : Context) (m : Message) : Program h (Except ConsumeError Unit) :=
  match Envelope.ofBytes m.payload with
  | .error e => return .error (.decode m.id e)
  | .ok envelope => return (← dispatchEnvelope ctx envelope).mapError (.dispatch m.id)

end Delivery

def Job.program {h : Host} : Job h → Program h Unit
  | .listener entry ctx event => do
    Delivery.logListenerFailure entry.id event (← Program.listen entry ctx event)
  | .dispatch ctx event => do
    match ← Delivery.deliver ctx event with
    | .ok () => return
    | .error e => Program.log (.dispatchFailed event.name e.message)
  | .publish ctx m => do
    match ← Program.op (.publish ctx m) with
    | .ok () => return
    | .error e => Program.log (.publishFailed m.eventName m.topic e.message)

end EventDispatch
