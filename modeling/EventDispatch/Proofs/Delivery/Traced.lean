import EventDispatch.Proofs.Delivery.Arrival
import EventDispatch.Proofs.Delivery.Chained

namespace EventDispatch

variable {h : Host} {α β : Type}

namespace Context

def under (ctx : Context) : Option String → Context
  | some id => ctx.withTrace id
  | none => ctx

/-- A context that is `ctx` but for its trace. -/
structure Retraced (ctx own : Context) (trace : Option String) : Prop where
  trace : own.trace? = trace
  values : ∀ key, key ≠ traceKey → own.value? key = ctx.value? key
  deadline : own.deadline = ctx.deadline
  cancelled : ∀ cancelled now, own.isCancelled cancelled now = ctx.isCancelled cancelled now

variable {ctx own : Context} {trace : Option String}

theorem Retraced.refl (ctx : Context) : ctx.Retraced ctx ctx.trace? :=
  ⟨rfl, fun _ _ => rfl, rfl, fun _ _ => rfl⟩

theorem retraced_withTrace (ctx : Context) (id : String) :
    ctx.Retraced (ctx.withTrace id) (Text.filled (some id)) where
  trace := by
    rw [trace?, withTrace, withValue, value?, Keyed.find?_insert, if_pos rfl]
  values key other := by
    rw [withTrace, withValue, value?, Keyed.find?_insert, if_neg (Ne.symm other)]
    rfl
  deadline := rfl
  cancelled _ _ := rfl

theorem retraced_under (ctx : Context) (filled : trace ≠ some "") :
    ctx.Retraced (ctx.under trace) (trace.or ctx.trace?) := by
  cases trace with
  | none => exact .refl ctx
  | some id =>
    have named := ctx.retraced_withTrace id
    rw [Text.filled_eq_self filled] at named
    exact named

end Context

namespace Delivery

open Program Footstep

/-- The context of an envelope's own choice comes first. -/
theorem retraced_withEnvelopeTrace (ctx : Context) (trace : Option String) :
    ctx.Retraced (withEnvelopeTrace ctx trace) (ctx.trace?.or (Text.filled trace)) := by
  cases trace with
  | none =>
    have none : Text.filled none = none := rfl
    rw [none, Option.or_none]
    exact .refl ctx
  | some id =>
    unfold withEnvelopeTrace
    cases own : ctx.trace? with
    | none => exact ctx.retraced_withTrace id
    | some trace =>
      have refl := Context.Retraced.refl ctx
      rw [own] at refl
      exact refl

/-- The message of an event under a trace, in its header and in its envelope. -/
structure Labelled (event : Event) (trace : Option String) (m : Message) : Prop where
  header : m.header? Context.traceKey = trace
  name : m.eventName = event.name
  payload : ∃ envelope, Envelope.ofBytes m.payload = .ok envelope ∧ envelope.trace = trace ∧
    envelope.eventName = m.eventName

end Delivery

def Call.context : Call h → Context
  | .listener _ ctx _ => ctx
  | .interceptor _ _ ctx _ => ctx

def Job.Conveys (own : Context) (good : Message → Prop) : Job h → Prop
  | .listener _ ctx _ => ctx = own
  | .dispatch ctx _ => ctx = own
  | .publish ctx m => ctx = own ∧ good m

def Op.Conveys (own : Context) (good : Message → Prop) : Op h → Prop
  | .publish ctx m => ctx = own ∧ good m
  | .enqueue job => job.Conveys own good
  | _ => True

def Footstep.Conveys (own : Context) (good : Message → Prop) (s : Footstep h) : Prop :=
  s.Within (Op.Conveys own good) fun c => c.context = own

/-- Programs that hand on this context and no other, and only such messages. -/
def Program.Conveys (own : Context) (good : Message → Prop) (p : Program h α) : Prop :=
  p.Keeps (.only (Op.Conveys own good) fun c => c.context = own) () fun _ _ => True

namespace Program

variable {own : Context} {good : Message → Prop}

theorem conveys_done (a : α) : (done a : Program h α).Conveys own good := trivial

theorem Conveys.bind {p : Program h α} {f : α → Program h β} (hp : p.Conveys own good)
    (hf : ∀ a, (f a).Conveys own good) : (p.bind f).Conveys own good :=
  keeps_bind.2 (keeps_mono hp fun _ a _ => hf a)

theorem conveys_op_bind {o : Op h} {f : o.Answer → Program h β} (step : o.Conveys own good)
    (hf : ∀ a, (f a).Conveys own good) : ((op o).bind f).Conveys own good :=
  ⟨step, fun a _ => hf a⟩

end Program

namespace Delivery

open Program Footstep

variable {app : Application h} {meanwhile : World h → World h → Prop} {t : Thread}
  {w w' : World h} {path : List (Footstep h)} {own ctx : Context} {event : Event}
  {options : DispatchOptions} {plan : DispatchPlan} {result : DispatchResult}
  {good : Message → Prop}

theorem conveys_log (n : Notice) : (log n : Program h Unit).Conveys own good :=
  ⟨trivial, fun _ _ => trivial⟩

theorem conveys_logListenerFailure (id : Nat) (event : Event) (r : ListenerResult) :
    (logListenerFailure id event r : Program h Unit).Conveys own good := by
  unfold logListenerFailure
  split
  · exact conveys_done _
  · exact conveys_done _
  · exact conveys_log _

theorem conveys_spawn {job : Job h} (conveys : job.Conveys own good) (name : String)
    (kind : WorkKind) : (spawn name kind job).Conveys own good := by
  have submits : (submit job).Conveys own good := by
    refine keeps_only_mono (submit_keeps job) (fun o step => ?_) fun _ called => called.elim
    cases step with
    | enqueue => exact conveys
    | _ => trivial
  apply submits.bind
  intro r
  cases r with
  | ok u => exact conveys_done _
  | error e => exact (conveys_log _).bind fun _ => conveys_done _

theorem conveys_proceed (next : Next h) (event : Event) :
    (proceed next own event).Conveys own good := by
  unfold proceed
  split
  · refine keeps_only_mono (callListeners_runsListeners (List.Subset.refl _)) (fun o step => ?_)
      fun c call => ?_
    · cases step with
      | enqueue listed => exact rfl
      | _ => trivial
    · cases call with
      | own listed => rfl
      | forced listed => rfl
  · exact ⟨rfl, fun _ _ _ => trivial⟩

theorem conveys_deliver (event : Event) :
    (deliver own event : Program h DispatchResult).Conveys own good := by
  rw [deliver_eq]
  refine conveys_op_bind trivial fun snapshot => (conveys_proceed _ event).bind fun r => ?_
  refine conveys_op_bind trivial fun ids => ?_
  split
  · exact conveys_op_bind trivial fun _ => conveys_done _
  · exact conveys_done _

/-- The message of an external delivery, whose envelope has the trace of the plan or of the context. -/
theorem conveys_deliverExternal
    (sealed : ∀ body now id topic, event.encodeBody = .ok body →
      good (messageOf own event plan body now id topic)) :
    (deliverExternal own event plan : Program h DispatchResult).Conveys own good := by
  refine conveys_op_bind trivial fun settings => ?_
  split
  · exact conveys_done _
  · split
    · exact conveys_done _
    · next topic chosen =>
      refine conveys_op_bind trivial fun now => ?_
      unfold Envelope.enclose
      cases encoded : event.encodeBody with
      | error e => exact conveys_done _
      | ok body =>
        refine conveys_op_bind trivial fun id => ?_
        let m := messageOf own event plan body now id topic
        have job : (Job.publish own m : Job h).Conveys own good :=
          ⟨rfl, sealed body now id topic encoded⟩
        simp only []
        split
        · exact (conveys_spawn job _ _).bind fun _ => conveys_done _
        · exact conveys_op_bind job fun _ => conveys_done _

def ownContext (ctx : Context) (options : DispatchOptions) : Context :=
  ctx.under (Text.filled options.trace)

theorem withPlanTrace_eq (traced : plan.trace = Text.filled options.trace) :
    withPlanTrace ctx plan = ownContext ctx options := by
  have own : withPlanTrace ctx plan = ctx.under plan.trace := by
    unfold withPlanTrace Context.under
    cases plan.trace <;> rfl
  rw [own, traced, ownContext]

/-- A message is labelled with the trace of the envelope that it carries. -/
theorem labelled_messageFor {envelope : Envelope} (named : envelope.eventName = event.name)
    (value : Json.isValue (Text.utf8 envelope.payload.text)) (filled : envelope.trace ≠ some "")
    (id topic key : String) :
    Labelled event envelope.trace (messageFor id topic key event envelope) := by
  have read := Envelope.ofBytes_written value filled
  unfold messageFor
  cases trace : envelope.trace with
  | none => exact ⟨rfl, rfl, envelope, read, trace, named⟩
  | some id => exact ⟨rfl, rfl, envelope, read, trace, named⟩

theorem labelled_messageOf {body : RawJson} (value : Json.isValue (Text.utf8 body.text))
    (traced : plan.trace = Text.filled options.trace) (now : Timestamp) (id topic : String) :
    Labelled event (effectiveTrace ctx options)
      (messageOf (ownContext ctx options) event plan body now id topic) := by
  have trace : Text.filled (plan.trace.or (ownContext ctx options).trace?) =
      effectiveTrace ctx options := by
    rw [← withPlanTrace_eq traced]
    exact filled_planTrace traced
  let envelope : Envelope := ⟨event.name, body, now, effectiveTrace ctx options⟩
  have labelled : Labelled event envelope.trace (messageFor id topic plan.key event envelope) :=
    labelled_messageFor rfl value (effectiveTrace_ne_empty ctx options) id topic plan.key
  rw [messageOf, trace]
  exact labelled

theorem conveys_dispatch (ctx : Context) (options : DispatchOptions)
    (values : ∀ body, event.encodeBody = .ok body → Json.isValue (Text.utf8 body.text)) :
    (dispatch ctx (some event) options : Program h DispatchResult).Conveys (ownContext ctx options)
      (Labelled event (effectiveTrace ctx options)) := by
  have looks : (routeFor event options : Program h (Option Route)).Conveys (ownContext ctx options)
      (Labelled event (effectiveTrace ctx options)) := by
    unfold routeFor
    split
    · exact conveys_done _
    · exact conveys_op_bind trivial fun _ => conveys_done _
  rw [dispatch_eq]
  refine looks.bind fun route => ?_
  cases resolved : DispatchPlan.resolve event.name options route with
  | error e => exact conveys_done _
  | ok plan =>
    have traced := resolve_trace resolved
    simp only []
    unfold carryOut
    rw [withPlanTrace_eq traced]
    split
    · exact conveys_deliver event
    · have job : (Job.dispatch (ownContext ctx options) event : Job h).Conveys (ownContext ctx options)
          (Labelled event (effectiveTrace ctx options)) := rfl
      exact (conveys_spawn job _ _).bind fun _ => conveys_done _
    · exact conveys_deliverExternal fun body now id topic encoded =>
        labelled_messageOf (values body encoded) traced now id topic

/-- A worker hands on what the job was given. -/
theorem conveys_job {job : Job h} (conveys : job.Conveys own good) : job.program.Conveys own good := by
  cases job with
  | listener entry ctx event =>
    exact ⟨conveys, fun _ _ r => conveys_logListenerFailure entry.id event r⟩
  | dispatch ctx event =>
    have same : ctx = own := conveys
    subst same
    refine (conveys_deliver event).bind fun r => ?_
    cases r with
    | ok u => exact conveys_done _
    | error e => exact conveys_log _
  | publish ctx m =>
    refine conveys_op_bind conveys fun r => ?_
    cases r with
    | ok u => exact conveys_done _
    | error e => exact conveys_log _

/-- The path of a delivery that starts its chain with this context: if there are interceptors, the first
is called with it. -/
def Begins (own : Context) (event : Event) (path : List (Footstep h)) : Prop :=
  ∃ found rest, path = .performed found (.snapshot event.name) :: rest ∧
    ∀ i is, found.registry.interceptors = i :: is →
      rest.head? = some
        (.called (.interceptor i ⟨is, found.registry.entries event.name, event⟩ own event))

theorem deliver_begins (ran : (deliver own event).Runs app meanwhile t w path w' result) :
    Begins own event path := by
  obtain ⟨w₁, walk, w₂, r, clearing, rfl, proceeded, -⟩ := runs_deliver ran
  refine ⟨w, walk ++ clearing, rfl, fun i is first => ?_⟩
  rw [first] at proceeded
  obtain ⟨inner, w₃, r', rest, -, rfl, -⟩ := runs_call_iff.1 proceeded
  rfl

theorem Begins.append (begins : Begins own event path) (rest : List (Footstep h)) :
    Begins own event (path ++ rest) := by
  obtain ⟨found, after, rfl, first⟩ := begins
  refine ⟨found, after ++ rest, rfl, fun i is listed => ?_⟩
  rw [List.head?_append, first i is listed, Option.some_or]

theorem routeFor_found {route : Option Route}
    (ran : (routeFor event options).Runs app meanwhile t w path w' route) :
    route = routeIn w event options := by
  unfold routeFor at ran
  unfold routeIn
  split at ran
  · next chosen =>
    obtain ⟨-, -, rfl⟩ := runs_done_iff.1 ran
    rw [if_pos chosen]
  · next open_ =>
    obtain ⟨-, w₁, rest, -, rfl, ran₁⟩ := runs_op_bind_iff.1 ran
    obtain ⟨-, -, rfl⟩ := runs_done_iff.1 ran₁
    rw [if_neg open_]
    rfl

/-- A dispatch in this process and at once is the delivery under its own context. -/
theorem dispatch_begins
    (ran : (dispatch ctx (some event) options).Runs app meanwhile t w path w' result)
    (resolved : DispatchPlan.resolve event.name options (routeIn w event options) = .ok plan)
    (memory : plan.driver = .memory) (now : plan.asynchronous = false) :
    ∃ lookup rest, path = lookup ++ rest ∧ Looks t lookup ∧
      Begins (ownContext ctx options) event rest := by
  rw [dispatch_eq] at ran
  obtain ⟨lookup, w₁, route, rest, rfl, routed, ran₁⟩ := runs_bind_iff.1 ran
  rw [routeFor_found routed, resolved] at ran₁
  simp only [carryOut, memory, now, withPlanTrace_eq (resolve_trace resolved)] at ran₁
  exact ⟨lookup, rest, rfl, routeFor_looks routed, deliver_begins ran₁⟩

theorem job_begins {u : Unit} (ran : (Job.dispatch own event).program.Runs app meanwhile t w path w' u) :
    Begins own event path := by
  obtain ⟨first, w₁, r, rest, rfl, delivered, -⟩ := runs_bind_iff.1 ran
  exact (deliver_begins delivered).append rest

theorem conveys_dispatchEnvelope (ctx : Context) (envelope : Envelope) :
    (dispatchEnvelope ctx envelope : Program h DispatchResult).Conveys
      (withEnvelopeTrace ctx envelope.trace) fun _ => False := by
  refine conveys_op_bind trivial fun types => ?_
  unfold TypeRegistry.decode
  cases TypeRegistry.decodeEvent types envelope with
  | error e => exact conveys_done _
  | ok event => exact conveys_deliver event

/-- Whatever the routes say, the event in an envelope is delivered in this process. -/
theorem dispatchEnvelope_begins {envelope : Envelope} {decoded : Decoded}
    (decodes : w.types.decode envelope = .ok decoded)
    (ran : (dispatchEnvelope ctx envelope).Runs app meanwhile t w path w' result) :
    ∃ rest, path = .performed w (.host .types) :: rest ∧
      Begins (withEnvelopeTrace ctx envelope.trace) decoded.event rest := by
  obtain ⟨-, w₁, rest, -, rfl, ran₁⟩ := runs_op_bind_iff.1 ran
  have known : (w.answer t (.host .types)).1 = w.types := rfl
  rw [known, decodes] at ran₁
  rw [← TypeRegistry.trace_of_decode decodes]
  exact ⟨rest, rfl, deliver_begins ran₁⟩

/-- All that a dispatch hands on has one trace: the caller's choice, or else the context's, where an
empty one counts as none. The listeners and interceptors that it calls itself, the publisher and the
jobs that it submits get its own context, which has this trace and is the caller's in all else; so do
those that a worker calls who runs such a job. A message for the publisher has the trace in its header
and in its envelope, and the envelope has the name that stands on the message. A delivery in this
process starts its chain with that context. An envelope is delivered under the context's own trace, or
else its own, and nothing goes to the publisher. -/
theorem traces_agree (ctx : Context) (event : Event) (options : DispatchOptions)
    (values : ∀ body, event.encodeBody = .ok body → Json.isValue (Text.utf8 body.text)) :
    ctx.Retraced (ownContext ctx options) ((Text.filled options.trace).or ctx.trace?) ∧
    (∀ w path w' result, (dispatch ctx (some event) options).Runs app meanwhile t w path w' result →
      (∀ s ∈ path, s.Conveys (ownContext ctx options)
        (Labelled event ((Text.filled options.trace).or ctx.trace?))) ∧
      ∀ plan, DispatchPlan.resolve event.name options (routeIn w event options) = .ok plan →
        plan.driver = .memory → plan.asynchronous = false →
        ∃ lookup rest, path = lookup ++ rest ∧ Looks t lookup ∧
          Begins (ownContext ctx options) event rest) ∧
    (∀ job : Job h, job.Conveys (ownContext ctx options)
        (Labelled event ((Text.filled options.trace).or ctx.trace?)) →
      ∀ worker w path w' u, job.program.Runs app meanwhile worker w path w' u →
        (∀ s ∈ path, s.Conveys (ownContext ctx options)
          (Labelled event ((Text.filled options.trace).or ctx.trace?))) ∧
        ∀ own given, job = .dispatch own given → Begins (ownContext ctx options) given path) ∧
    ∀ envelope : Envelope,
      ctx.Retraced (withEnvelopeTrace ctx envelope.trace)
        (ctx.trace?.or (Text.filled envelope.trace)) ∧
      ∀ w path w' result, (dispatchEnvelope ctx envelope).Runs app meanwhile t w path w' result →
        (∀ s ∈ path, s.Conveys (withEnvelopeTrace ctx envelope.trace) fun _ => False) ∧
        ∀ decoded, w.types.decode envelope = .ok decoded →
          ∃ rest, path = .performed w (.host .types) :: rest ∧
            Begins (withEnvelopeTrace ctx envelope.trace) decoded.event rest := by
  refine ⟨ctx.retraced_under (Text.filled_ne_empty _), ?_, ?_, fun envelope => ⟨?_, ?_⟩⟩
  · intro w path w' result ran
    have conveys := conveys_dispatch (h := h) ctx options values
    exact ⟨ran.within conveys, fun plan resolved => dispatch_begins ran resolved⟩
  · intro job conveys worker w path w' u ran
    refine ⟨ran.within (conveys_job conveys), ?_⟩
    rintro own given rfl
    have same : own = ownContext ctx options := conveys
    rw [← same]
    exact job_begins ran
  · exact retraced_withEnvelopeTrace ctx envelope.trace
  · intro w path w' result ran
    exact ⟨ran.within (conveys_dispatchEnvelope ctx envelope),
      fun decoded decodes => dispatchEnvelope_begins decodes ran⟩

def toOrdersUntraced : DispatchOptions := .ofChoices [.external "orders", .trace ""]

theorem order_labelled : ∃ path w' found c m,
    (dispatch traced (some (.typed order)) toOrdersUntraced).Runs bare Eq .main brokered path w'
      (.ok ()) ∧
    .performed found (.publish c m) ∈ path ∧ c.trace? = some "t-9" ∧
    m.header? Context.traceKey = some "t-9" ∧
    ∃ envelope, Envelope.ofBytes m.payload = .ok envelope ∧ envelope.trace = some "t-9" ∧
      envelope.eventName = "order.created" := by
  have run : ∃ path w' found c m,
      (dispatch traced (some (.typed order)) toOrdersUntraced).Runs bare Eq .main brokered path w'
        (.ok ()) ∧ .performed found (.publish c m) ∈ path :=
    ⟨_, _, _, _, _, .perform rfl rfl (.perform rfl rfl (.perform rfl rfl (.perform rfl rfl
      (.done _ _)))), .tail _ (.tail _ (.tail _ (.head _)))⟩
  obtain ⟨path, w', found, c, m, ran, published⟩ := run
  have values : ∀ body, (Event.typed order).encodeBody = .ok body →
      Json.isValue (Text.utf8 body.text) := by
    intro body encoded
    cases encoded
    exact order.isValue_body
  have trace : (Text.filled toOrdersUntraced.trace).or traced.trace? = some "t-9" := by decide +kernel
  obtain ⟨retraced, dispatched, -⟩ :=
    @traces_agree bareHost bare Eq .main traced (.typed order) toOrdersUntraced values
  rw [trace] at retraced dispatched
  obtain ⟨conveys, -⟩ := dispatched _ _ _ _ ran
  obtain ⟨own, header, name, envelope, read, same, named⟩ := conveys _ published
  refine ⟨path, w', found, c, m, ran, published, ?_, header, envelope, read, same, ?_⟩
  · rw [own]
    exact retraced.trace
  · rw [named, name]
    rfl

end Delivery
end EventDispatch
