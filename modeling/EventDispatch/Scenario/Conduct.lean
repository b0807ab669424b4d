import EventDispatch.Scenario.Step

namespace EventDispatch.Scenario

open Script

abbrev Conduct := Script host

def state : Conduct State := act (.modify id)

def update (f : State → State) : Conduct Unit := do
  let _ ← act (.modify f)

def mark (m : Mark) : Conduct Unit := act (.mark m)

def settle (ctx : Context) : Ending → Conduct ListenerResult
  | .ok => return .ok ()
  | .stop => return .error .stopPropagation
  | .cancelled => return .error .cancelled
  | .cancelledIf => do
    if ← act (.isCancelled ctx) then return .error .cancelled
    return .ok ()
  | .rejected reason => return .error (.rejected reason)
  | .other reason => return .error (.other reason)
  | .panic p => .panic p

/-- What a label stands for. Code that uses a label before it stands for anything panics. -/
def lookUp {α : Type} (find? : State → Option α) : Conduct α := do
  match find? (← state) with
  | some a => return a
  | none => .panic (.text "no entry found for key")

def contextOf (ctx : Context) (ref : ContextRef) : Conduct Context := lookUp (·.context? ctx ref)

def subscriptionOf (label : String) : Conduct Subscription :=
  lookUp (·.subscriptions.find? label)

def openHandle (handle : String) : Conduct Nat := do
  let scope ← act .openScope
  update fun s : State => { s with handles := s.handles.insert handle scope }
  return scope

def derive (ctx : Context) : List Derivation → Conduct Context
  | [] => return ctx
  | .trace id :: rest => derive (ctx.withTrace id) rest
  | .value key value :: rest => derive (ctx.withValue key value) rest
  | .cancel handle :: rest => do derive (ctx.withScope (← openHandle handle)) rest
  | .deadline seconds :: rest => derive (ctx.withDeadline seconds) rest
  | .timeout seconds :: rest => do derive (ctx.withTimeout (← act .elapsed) seconds) rest

def subscribe (s : Subscribing Step) : Conduct Reply := do
  let before ← act (.modify fun st : State => { st with calls := st.calls ++ [0] })
  let code := { s.listener with slot := before.calls.length }
  let sub ← match s.typed with
    | some t => ask (.subscribe t.eventName (.typed t code) s.options)
    | none => ask (.subscribe s.name (.plain code) s.options)
  update fun st : State => { st with subscriptions := st.subscriptions.insert s.listener.label sub }
  return .subscribed (← ask (.isActive sub)) sub.name

def describeSubscription (sub : Subscription) (isActive : Bool) : String :=
  "Subscription \x7b name: " ++ Text.quoted sub.name ++ ", id: " ++ Nat.repr sub.id ++
    ", active: " ++ toString isActive ++ " \x7d"

def describeDispatcher (names : List String) (routes : Nat) (s : Settings) : String :=
  "Dispatcher \x7b events: " ++ Text.quotedList names ++ ", routes: " ++ Nat.repr routes ++
    ", publisher: " ++ toString s.publisher.isSome ++ ", pool_size: " ++ Nat.repr s.poolSize ++
    ", force_sync: " ++ toString s.forceSync ++ " \x7d"

def keeps (start trace : Option String) (ctx : Context) (event : Event) : Bool :=
  (start.all fun start => start.toList.isPrefixOf event.name.toList) &&
    trace.all fun id => ctx.trace? == some id

def interceptorOf : Use Step → EventDispatch.Interceptor host
  | .logging => .logging
  | .metrics label => .metrics fun event outcome => .measured label event outcome
  | .filter start trace => .filter (keeps start trace)
  | .scripted i => .custom i

/-- The gates hold back workers only. -/
def passGate (gate : String) : Conduct Unit := do
  match ← act .thread with
  | .worker _ =>
    update fun s : State => { s with blocked := gate :: s.blocked }
    act (.await fun s : State => s.openGates.contains gate)
    update fun s : State => { s with blocked := s.blocked.erase gate }
  | _ => return

def send (e : Errand) : Conduct Nat := act (.send e)

def fetch (n : Nat) : Conduct (Option (Except Panic Finding)) := act (.fetch n)

def dispatchReply : Option (Except Panic Finding) → Reply
  | some (.ok (.dispatched r)) => .dispatched r
  | some (.error p) => .panicked p
  | _ => .unit

/-- The count of a consumer, which is lost when it panics. -/
def consumerStats : Option (Except Panic Finding) → ConsumerStats
  | some (.ok (.consumed stats)) => stats
  | _ => .zero

def sendEach (e : Errand) : Nat → Conduct (List Nat)
  | 0 => return []
  | threads + 1 => do
    let first ← send e
    return first :: (← sendEach e threads)

def fetchEach : List Nat → Conduct (List Reply)
  | [] => return []
  | first :: rest => do
    let reply := dispatchReply (← fetch first)
    return reply :: (← fetchEach rest)

def countAnswers (polls : List Poll) : Nat :=
  polls.countP fun
    | .empty => false
    | _ => true

/-- Has a consumer work on a thread of its own, until it has settled what is wanted of it: all that
is there, if nothing else is said. -/
def consume (ctx : Context) (c : Consuming) : Conduct Reply := do
  let consumed (source : Source) (all patience : Nat) : Conduct ConsumerStats := do
    return consumerStats (← fetch (← send (.consume source ctx (c.expect.getD all) patience)))
  match c.supply with
  | .bus topic =>
    let n ← act (.bus (.subscribe topic))
    let bus ← act (.bus .read)
    let stats ← consumed (.subscriber n) (bus.log.countP (bus.subscriber n).wants) 1
    let subscriber := (← act (.bus .read)).subscriber n
    return .settled stats subscriber.acknowledged subscriber.rejected
  | .feed f =>
    let before ← act (.modify fun s : State => { s with feeds := s.feeds ++ [⟨f, []⟩] })
    let n := before.feeds.length
    let stats ← consumed (.feed n) (countAnswers f.polls) (f.polls.length + 1)
    return .polled stats ((← state).feed n).done

/-- Steps that a dispatcher is not needed for. -/
def withoutDispatcher : Step → Bool
  | .unsubscribe _ => true
  | .isActive _ => true
  | .describeSubscription _ => true
  | .context .. => true
  | .cancel _ => true
  | .gate _ => true
  | .openGate _ => true
  | .busMessages => true
  | .busFail _ => true
  | .busRecover => true
  | .busPublish _ => true
  | .buffer => true
  | _ => false

/-- What one step does, taken by code that was called with `ctx`. -/
def take (ctx : Context) : Step → Conduct Reply
  | .subscribe s => subscribe s
  | .unsubscribe label => do
    let sub ← subscriptionOf label
    ask (.unsubscribe sub)
    return .flag (← ask (.isActive sub))
  | .isActive label => do return .flag (← ask (.isActive (← subscriptionOf label)))
  | .describeSubscription label => do
    let sub ← subscriptionOf label
    return .text (describeSubscription sub (← ask (.isActive sub)))
  | .count name => do return .counted (← act (.count name))
  | .names => do return .texts (← act .names)
  | .describe => do
    let names ← act .names
    let table ← act .table
    return .text (describeDispatcher names table.size (← act .settings))
  | .hasPublisher => do return .flag (← act .settings).publisher.isSome
  | .drop => do
    update fun s : State => { s with isDropped := true }
    return .unit
  | .use u => do
    act (.intercept (interceptorOf u))
    return .unit
  | .dispatch event options ref => do
    return .dispatched (← ask (.dispatch (← contextOf ctx ref) event options))
  | .concurrent threads event options => do
    return .each (← fetchEach (← sendEach (.dispatch event options) threads))
  | .receive bytes ref => do return .dispatched (← ask (.receive (← contextOf ctx ref) bytes))
  | .envelope e ref => do
    return .dispatched (← ask (.dispatchEnvelope (← contextOf ctx ref) e))
  | .consume m ref => do return .consumed (← ask (.consume (← contextOf ctx ref) m))
  | .loadRoutes entries => do
    ask (.loadRoutes entries)
    return .unit
  | .applyConfig c => do return .configured (← ask (.applyConfig c))
  | .routes => do return .routes (← act .table).routes
  | .route name => do return .route ((← act .table).route? name)
  | .register t => do return .registered (← act (.register t))
  | .types => do return .texts (← act .types).keys
  | .isRegistered name => do return .flag ((← act .types).contains name)
  | .context id origin ops => do
    let derived ← derive (← contextOf ctx origin) ops
    update fun s : State => { s with contexts := s.contexts.insert id derived }
    return .unit
  | .cancel handle => do
    act (.cancelScope (← lookUp (·.handles.find? handle)))
    return .unit
  | .gate gate => do
    passGate gate
    return .unit
  | .openGate gate => do
    update fun s : State => { s with openGates := gate :: s.openGates }
    return .unit
  | .shutdown => do
    update fun s : State => { s with openGates := s.blocked ++ s.openGates }
    ask .shutdown
    return .unit
  | .busMessages => do return .messages (← act (.bus .read)).log
  | .busFail reason => do
    act (.bus (.failWith reason))
    return .unit
  | .busRecover => do
    act (.bus .recover)
    return .unit
  | .busPublish m => do return .published (← act (.bus (.publish m)))
  | .buffer => do return .texts (← act .buffer)
  | .consumer c => do consume (← contextOf ctx c.ctx) c

def perform (ctx : Context) (step : Step) : Conduct Reply := do
  if (← state).isDropped && !withoutDispatcher step then return .noDispatcher
  take ctx step

def heard (l : Listener Step) (ctx : Context) (event : Event) (isCancelled : Bool) : Heard where
  label := l.label
  event := event.name
  kind := event.kind
  trace := ctx.trace?
  isCancelled := isCancelled
  body := if l.full then some event.encodeBody else none
  moment := if l.full then some event.occurredAt else none
  values := l.values.map fun keys => keys.map fun key => (key, ctx.value? key)

def runActions (label : String) (ctx : Context) (call : Nat) :
    List (Action Step) → Conduct Unit
  | [] => return
  | action :: rest => do
    if action.calls.all (·.contains call) then
      mark (.acted label action.step.verb (← perform ctx action.step))
    runActions label ctx call rest

/-- The last ending serves all further calls. -/
def endingAt (endings : List Ending) (call : Nat) : Ending :=
  (endings[call]?).getD (endings.getLastD .ok)

def listen (l : Listener Step) (ctx : Context) (event : Event) : Conduct ListenerResult := do
  let before ← act (.modify fun s : State => { s with calls := s.calls.modify l.slot (· + 1) })
  let call := before.calls.getD l.slot 0
  mark (.heard (heard l ctx event (← act (.isCancelled ctx))))
  runActions l.label ctx call l.actions
  settle ctx (endingAt l.endings call)

def swallow : ListenerResult → ListenerResult
  | .error (.rejected _) => .ok ()
  | r => r

def wrap : ListenerResult → ListenerResult
  | .error (.rejected reason) => .error (.other ("wrapped: " ++ reason))
  | r => r

def intercept (i : Interceptor Step) (ctx : Context) (event : Event) :
    Conduct (Verdict host) := do
  mark (.before i.label event.name ctx.trace?)
  let finish (r : ListenerResult) : Conduct (Verdict host) := do
    mark (.after i.label r)
    return .finish r
  let proceed (ctx : Context) (event : Event) (f : ListenerResult → ListenerResult) :
      Conduct (Verdict host) :=
    return .proceed ctx event fun r => do
      mark (.after i.label (f r))
      return f r
  match i.detour with
  | .pass => proceed ctx event id
  | .skip => finish (.ok ())
  | .finish e => do finish (← settle ctx e)
  | .swallow => proceed ctx event swallow
  | .wrap => proceed ctx event wrap
  | .override e =>
    return .proceed ctx event fun _ => do
      let r ← settle ctx e
      mark (.after i.label r)
      return r
  | .setTrace trace => proceed (ctx.withTrace trace) event id
  | .setValue key value => proceed (ctx.withValue key value) event id
  | .cancel => do
    let scope ← act .openScope
    act (.cancelScope scope)
    proceed (ctx.withScope scope) event id
  | .replace event => proceed ctx event id
  | .act step => do
    mark (.acted i.label step.verb (← perform ctx step))
    proceed ctx event id

def takePoll (f : OpenFeed) : OpenFeed := { f with feed.polls := f.feed.polls.tail }

def record (s : Settlement) (f : OpenFeed) : OpenFeed := { f with done := f.done ++ [s] }

/-- Changes a feed, and answers what it was. -/
def changeFeed (n : Nat) (f : OpenFeed → OpenFeed) : Conduct OpenFeed := do
  return (← act (.modify fun s : State => { s with feeds := s.feeds.modify n f })).feed n

def failWith (e : Option PublishError) : Except PublishError Unit :=
  match e with
  | some e => .error e
  | none => .ok ()

/-- The inlet of a feed, which answers its polls in turn. -/
def feedInlet (n : Nat) : Inlet host where
  poll := do
    match (← changeFeed n takePoll).feed.polls with
    | [] => return .ok none
    | .empty :: _ => return .ok none
    | .message m :: _ => return .ok (some m)
    | .error e :: _ =>
      let _ ← changeFeed n (record .pollError)
      return .error e
  ack id := do return failWith (← changeFeed n (record (.ack id))).feed.ackError
  nack id reason := do return failWith (← changeFeed n (record (.nack id reason))).feed.nackError

def inletOf : Source → Inlet host
  | .subscriber n => .ofBus n
  | .feed n => feedInlet n

def carryOut : Errand → Conduct Finding
  | .dispatch event options => do
    return .dispatched (← ask (.dispatch .background event options))
  | .consume source ctx wanted patience => do
    return .consumed (← Consumer.rounds (inletOf source) ctx patience wanted patience .zero)

def application : Application host := ⟨listen, intercept, carryOut⟩

end EventDispatch.Scenario
