import EventDispatch.Proofs.Delivery.Action
import EventDispatch.Proofs.Event.Written
import EventDispatch.Proofs.Registry
import EventDispatch.Proofs.Wire.Decoding
import EventDispatch.Proofs.Wire.RoundTrip

namespace EventDispatch

variable {h : Host}

/-- The event is handed to the listener of this entry: it is called, or the call given to the pool. -/
inductive Footstep.Hands : Footstep h → Entry h → Context → Event → Prop where
  | call (e : Entry h) (ctx : Context) (event : Event) :
      Hands (.called (.listener e ctx event)) e ctx event
  | submit (found : World h) (e : Entry h) (ctx : Context) (event : Event) :
      Hands (.performed found (.enqueue (.listener e ctx event))) e ctx event

namespace Delivery

open Program Footstep

variable {app : Application h} {meanwhile : World h → World h → Prop} {t : Thread}
  {w w' : World h} {path : List (Footstep h)} {ctx : Context} {event : Event}
  {options : DispatchOptions} {plan : DispatchPlan} {result : DispatchResult}

def effectiveTrace (ctx : Context) (options : DispatchOptions) : Option String :=
  (Text.filled options.trace).or ctx.trace?

theorem trace?_withTrace (ctx : Context) {id : String} (ne : some id ≠ some "") :
    (ctx.withTrace id).trace? = some id := by
  rw [Context.trace?, Context.withTrace, Context.withValue, Context.value?, Keyed.find?_insert,
    if_pos rfl, Text.filled_eq_self ne]

theorem effectiveTrace_ne_empty (ctx : Context) (options : DispatchOptions) :
    effectiveTrace ctx options ≠ some "" := by
  unfold effectiveTrace
  have chosen := Text.filled_ne_empty options.trace
  cases given : Text.filled options.trace with
  | none => exact Text.filled_ne_empty _
  | some id =>
    rw [given] at chosen
    exact chosen

/-- The trace that is written into the envelope. -/
theorem filled_planTrace (traced : plan.trace = Text.filled options.trace) :
    Text.filled (plan.trace.or (withPlanTrace ctx plan).trace?) = effectiveTrace ctx options := by
  unfold withPlanTrace effectiveTrace
  rw [← traced]
  have filled := traced ▸ Text.filled_ne_empty options.trace
  cases given : plan.trace with
  | none => exact Text.filled_eq_self (Text.filled_ne_empty _)
  | some id =>
    rw [given] at filled
    exact Text.filled_eq_self filled

theorem resolve_trace {name : String} {route : Option Route}
    (resolved : DispatchPlan.resolve name options route = .ok plan) :
    plan.trace = Text.filled options.trace := by
  unfold DispatchPlan.resolve at resolved
  simp only at resolved
  split at resolved
  · cases resolved
  · cases resolved
    rfl

theorem messageOf_payload {body : RawJson} {now : Timestamp} {id topic : String} :
    (messageOf ctx event plan body now id topic).payload =
      (⟨event.name, body, now, Text.filled (plan.trace.or ctx.trace?)⟩ : Envelope).toBytes := by
  unfold messageOf messageFor
  dsimp only
  split <;> rfl

variable {found : World h} {c : Context} {m : Message}

theorem not_published_of_quiet (quiet : ∀ s ∈ path, s.acts = false) :
    Footstep.performed found (.publish c m) ∉ path := by
  intro published
  have act : true = false := quiet _ published
  cases act

theorem not_published_of_looks (looked : Looks t path) :
    Footstep.performed found (.publish c m) ∉ path :=
  not_published_of_quiet fun s hs => (looked s hs).2

theorem not_published_of_submit {job : Job h} {steps : List (Footstep h)} {r : Except PoolError Unit}
    {w₁ w₂ : World h} (submitted : (submit job).Runs app meanwhile t w₁ steps w₂ r)
    (acted : path.filter acts = steps) : Footstep.performed found (.publish c m) ∉ path := by
  intro published
  have act : Footstep.performed found (.publish c m) ∈ path.filter acts :=
    List.mem_filter.2 ⟨published, rfl⟩
  have still := (submit_acts submitted _ (acted ▸ act)).2
  cases still

theorem payload_of_external {topic : String} (chosen : plan.topic = some topic)
    (ran : (deliverExternal ctx event plan).Runs app meanwhile t w path w' result)
    (published : Footstep.performed found (.publish c m) ∈ path) :
    ∃ body now, event.encodeBody = .ok body ∧ m.payload =
      (⟨event.name, body, now, Text.filled (plan.trace.or ctx.trace?)⟩ : Envelope).toBytes := by
  rcases runs_deliverExternal chosen ran with ⟨-, -, looked⟩ | ⟨-, ⟨e, -, -, looked⟩ | encoded⟩
  · exact absurd published (not_published_of_looks looked)
  · exact absurd published (not_published_of_looks looked)
  · obtain ⟨body, now, id, quiet, w₁, rest, encoded, rfl, silent, ran₁⟩ := encoded
    rcases List.mem_append.1 published with early | published
    · exact absurd early (not_published_of_quiet silent)
    · rcases runs_handOver ran₁ with ⟨-, rfl, -⟩ | ⟨-, -, steps, w₂, r, submitted, acted⟩
      · cases List.mem_singleton.1 published
        exact ⟨body, now, encoded, messageOf_payload⟩
      · exact absurd published (not_published_of_submit submitted acted)

/-- A message that a dispatch publishes itself carries its event, under its trace. -/
theorem payload_of_published
    (ran : (dispatch ctx (some event) options).Runs app meanwhile t w path w' result)
    (published : Footstep.performed found (.publish c m) ∈ path) :
    ∃ body now, event.encodeBody = .ok body ∧
      m.payload = (⟨event.name, body, now, effectiveTrace ctx options⟩ : Envelope).toBytes := by
  rw [dispatch_eq] at ran
  obtain ⟨lookup, w₁, route, rest, rfl, routed, ran₁⟩ := runs_bind_iff.1 ran
  have later : Footstep.performed found (.publish c m) ∈ rest :=
    (List.mem_append.1 published).resolve_left (not_published_of_looks (routeFor_looks routed))
  cases resolved : DispatchPlan.resolve event.name options route with
  | error e =>
    rw [resolved] at ran₁
    obtain ⟨rfl, -⟩ := runs_done_iff.1 ran₁
    exact absurd later List.not_mem_nil
  | ok plan =>
    rw [resolved] at ran₁
    unfold carryOut at ran₁
    dsimp only at ran₁
    split at ran₁
    · have snapshot := (deliver_delivers_once ran₁).1
      have delivered : Footstep.performed found (.publish c m) ∈ rest.filter delivers :=
        List.mem_filter.2 ⟨later, rfl⟩
      rw [snapshot] at delivered
      cases List.mem_singleton.1 delivered
    · obtain ⟨first, w₂, accepted, rest, rfl, spawned, ran₂⟩ := runs_bind_iff.1 ran₁
      obtain ⟨rfl, -⟩ := runs_done_iff.1 ran₂
      obtain ⟨steps, w₃, r, submitted, acted⟩ := runs_spawn spawned
      rw [List.append_nil] at later
      exact absurd later (not_published_of_submit submitted acted)
    · next external =>
      obtain ⟨topic, chosen⟩ := resolve_topic resolved external
      rw [← filled_planTrace (resolve_trace resolved)]
      exact payload_of_external chosen ran₁ later

/-- Without interceptors, a delivery hands its own event to the entries of its name and to no other. -/
theorem deliver_hands (plain : w.registry.interceptors = [])
    (ran : (deliver ctx event).Runs app meanwhile t w path w' result) :
    ∀ s ∈ path, ∀ e c given, s.Hands e c given →
      e ∈ w.registry.entries event.name ∧ c = ctx ∧ given = event := by
  obtain ⟨w₁, walk, w₂, r, clearing, rfl, proceeded, cleared, -⟩ := runs_deliver ran
  rw [plain] at proceeded
  have walked := Program.Runs.within proceeded (callListeners_runsListeners (List.Subset.refl _))
  intro s hs e c given hands
  rcases List.mem_cons.1 hs with rfl | hs
  · cases hands
  rcases List.mem_append.1 hs with walking | clearing
  · -- No interceptor came between, so what reaches a listener is the dispatched event.
    have step := walked s walking
    cases hands with
    | call =>
      cases step with
      | own listed => exact ⟨listed, rfl, rfl⟩
      | forced listed => exact ⟨listed, rfl, rfl⟩
    | submit found =>
      cases step with
      | enqueue listed => exact ⟨listed, rfl, rfl⟩
  · have step := cleared s clearing
    cases hands with
    | call => cases step
    | submit found => cases step

theorem trace?_withEnvelopeTrace (untraced : ctx.trace? = none) {trace : Option String}
    (filled : trace ≠ some "") : (withEnvelopeTrace ctx trace).trace? = trace := by
  cases trace with
  | none => exact untraced
  | some id =>
    simp only [withEnvelopeTrace, untraced]
    exact trace?_withTrace ctx filled

/-- Consuming a message whose envelope is read and decoded is delivering its event in process. -/
theorem runs_consume_iff {envelope : Envelope} (read : Envelope.ofBytes m.payload = .ok envelope)
    {decoded : Decoded} (decodes : w.types.decode envelope = .ok decoded)
    {answer : Except ConsumeError Unit} :
    (consume ctx m).Runs app meanwhile t w path w' answer ↔
      ∃ w₁ rest result, path = .performed w (.host .types) :: rest ∧ meanwhile w w₁ ∧
        (deliver (withEnvelopeTrace ctx decoded.trace) decoded.event).Runs app meanwhile t w₁ rest w'
          result ∧
        answer = result.mapError (.dispatch m.id) := by
  have known : (w.answer t (.host .types)).1 = w.types := rfl
  unfold consume
  rw [read]
  constructor
  · intro ran
    obtain ⟨first, w₂, result, rest, rfl, received, ran₁⟩ := runs_bind_iff.1 ran
    obtain ⟨rfl, rfl, rfl⟩ := runs_done_iff.1 ran₁
    obtain ⟨-, w₁, rest, others, rfl, ran₂⟩ := runs_op_bind_iff.1 received
    rw [known, decodes] at ran₂
    rw [List.append_nil]
    exact ⟨w₁, rest, result, rfl, others, ran₂, rfl⟩
  · rintro ⟨w₁, rest, result, rfl, others, ran, rfl⟩
    have received : (dispatchEnvelope ctx envelope).Runs app meanwhile t w
        (.performed w (.host .types) :: rest) w' result := by
      refine runs_op_bind_iff.2 ⟨rfl, w₁, rest, others, rfl, ?_⟩
      rw [known, decodes]
      exact ran
    exact runs_bind_iff.2 ⟨_, w', result, [], (List.append_nil _).symm, received, .done _ w'⟩

/-- What a published message is read and decoded as, where the type of its event is registered. -/
theorem published_decodes {e : TypedEvent} (roundTrips : e.RoundTrips)
    (ran : (dispatch ctx (some (.typed e)) options).Runs app meanwhile t w path w' result)
    (published : Footstep.performed found (.publish c m) ∈ path) {types : TypeRegistry}
    (registered : types.find? e.type.eventName = some e.type) :
    ∃ envelope now, Envelope.ofBytes m.payload = .ok envelope ∧
      types.decode envelope = .ok ⟨.typed e, effectiveTrace ctx options, now⟩ := by
  obtain ⟨body, now, encoded, payload⟩ := payload_of_published ran published
  cases encoded
  have rebuilt : e.type.decode e.body = .ok e := roundTrips
  refine ⟨⟨e.type.eventName, e.body, now, effectiveTrace ctx options⟩, now, ?_, ?_⟩
  · rw [payload]
    exact Envelope.ofBytes_written e.isValue_body (effectiveTrace_ne_empty ctx options)
  · exact TypeRegistry.decode_listed registered rebuilt

theorem deliver_fails_as_listener {error : DispatchError}
    (ran : (deliver ctx event).Runs app meanwhile t w path w' (.error error)) :
    ∃ cause, error = .listener event.name cause := by
  obtain ⟨-, r, failed⟩ := deliver_delivers_once ran
  unfold outcome at failed
  split at failed
  · cases failed
  · cases failed
  · cases failed
    exact ⟨_, rfl⟩

variable {h' : Host} {app' : Application h'} {meanwhile' : World h' → World h' → Prop} {t' : Thread}
  {v v' : World h'} {path' : List (Footstep h')} {ctx' : Context} {answer : Except ConsumeError Unit}

/-- An event of the catalog, and any other that its type reads back from its body, arrives as it was
published. The consumer, whatever its routes and its publisher, delivers that event in process, under
a context with the producer's trace; each listener that it calls or hands to its pool stands under the
event's name and is given that event and that trace, and only a listener can make it fail. -/
theorem published_arrives {e : TypedEvent} (readable : e.type ∈ Catalog.types ∨ e.RoundTrips)
    (ran : (dispatch ctx (some (.typed e)) options).Runs app meanwhile t w path w' result)
    (published : Footstep.performed found (.publish c m) ∈ path)
    (registered : v.types.find? e.type.eventName = some e.type)
    (plain : ∀ v₁, meanwhile' v v₁ → v₁.registry.interceptors = []) (untraced : ctx'.trace? = none)
    (consumed : (consume ctx' m).Runs app' meanwhile' t' v path' v' answer) :
    ∃ own v₁ rest delivered,
      own.trace? = effectiveTrace ctx options ∧ path' = .performed v (.host .types) :: rest ∧
      meanwhile' v v₁ ∧
      (deliver own (.typed e)).Runs app' meanwhile' t' v₁ rest v' delivered ∧
      answer = delivered.mapError (.dispatch m.id) ∧
      (∀ s ∈ path', ∀ entry given event, s.Hands entry given event →
        entry ∈ v₁.registry.entries e.type.eventName ∧ event = .typed e ∧
          given.trace? = effectiveTrace ctx options) ∧
      ∀ error, answer = .error error →
        ∃ cause, error = .dispatch m.id (.listener e.type.eventName cause) := by
  have roundTrips : e.RoundTrips := readable.elim Catalog.roundTrips id
  obtain ⟨envelope, now, read, decodes⟩ := published_decodes roundTrips ran published registered
  obtain ⟨v₁, rest, delivered, rfl, others, ran', rfl⟩ := (runs_consume_iff read decodes).1 consumed
  have trace := trace?_withEnvelopeTrace untraced (effectiveTrace_ne_empty ctx options)
  refine ⟨_, v₁, rest, delivered, trace, rfl, others, ran', rfl, ?_, ?_⟩
  · intro s hs entry given event hands
    rcases List.mem_cons.1 hs with rfl | hs
    · cases hands
    · obtain ⟨listed, rfl, rfl⟩ := deliver_hands (plain v₁ others) ran' s hs entry given event hands
      exact ⟨listed, rfl, trace⟩
  · intro error failed
    cases delivered with
    | ok u => cases failed
    | error cause =>
      obtain ⟨source, rfl⟩ := deliver_fails_as_listener ran'
      cases failed
      exact ⟨source, rfl⟩

def order : TypedEvent := ⟨Catalog.orderCreated, "o-1 \"é\"", 4200, .epoch, ()⟩

def toOrders : DispatchOptions := .ofChoices [.external "orders"]

abbrev quietHost : Host := ⟨Unit, Empty, Empty, Empty, Unit, Empty⟩

def quiet : Application quietHost where
  listen _ _ _ := return .ok ()
  intercept i := nomatch i
  run e := nomatch e

def audit : Entry quietHost := ⟨1, .plain (), ⟨0, false, false⟩⟩

def shopFloor : World quietHost :=
  { World.start default none () with
    types := Keyed.empty.insert "order.created" Catalog.orderCreated
    registry := ⟨Keyed.empty.insert "order.created" [audit], [], []⟩ }

theorem exists_run_audit (own : Context) (event : Event) (named : event.name = "order.created") :
    ∃ path, (deliver own event).Runs quiet Eq .main shopFloor path shopFloor (.ok ()) ∧
      .called (.listener audit own event) ∈ path := by
  have found : (shopFloor.answer .main (.snapshot event.name)).1 = ⟨[audit], []⟩ := by
    rw [named]
    rfl
  have heard : (quiet.body (.listener audit own event)).Runs quiet Eq .main shopFloor [] shopFloor
      (.ok ()) := .done _ _
  refine ⟨[.performed shopFloor (.snapshot event.name), .performed shopFloor (.claim audit),
    .called (.listener audit own event), .performed shopFloor (.spent [audit])],
    runs_op_bind_iff.2 ⟨rfl, shopFloor, _, rfl, rfl, ?_⟩, by simp⟩
  rw [found]
  exact .perform rfl rfl (.call heard (.perform rfl rfl (.done _ _)))

def traced : Context := Context.background.withTrace "t-9"

theorem exists_run_order : ∃ path w' found c m,
    (dispatch traced (some (.typed order)) toOrders).Runs bare Eq .main brokered path w' (.ok ()) ∧
      .performed found (.publish c m) ∈ path :=
  ⟨_, _, _, _, _, .perform rfl rfl (.perform rfl rfl (.perform rfl rfl (.perform rfl rfl
    (.done _ _)))), .tail _ (.tail _ (.tail _ (.head _)))⟩

/-- The order is published under a trace, and the consumer's listener hears it under that trace. -/
theorem order_heard : ∃ path w' found c m path' own,
    (dispatch traced (some (.typed order)) toOrders).Runs bare Eq .main brokered path w' (.ok ()) ∧
      .performed found (.publish c m) ∈ path ∧
      (consume .background m).Runs quiet Eq .main shopFloor path' shopFloor (.ok ()) ∧
      .called (.listener audit own (.typed order)) ∈ path' ∧ own.trace? = some "t-9" := by
  obtain ⟨path, w', found, c, m, ran, published⟩ := exists_run_order
  have listed : order.type ∈ Catalog.types := List.mem_cons_self
  have registered : shopFloor.types.find? order.type.eventName = some order.type := rfl
  have plain : ∀ v₁, shopFloor = v₁ → v₁.registry.interceptors = [] := fun _ same => same ▸ rfl
  obtain ⟨envelope, now, read, decodes⟩ :=
    published_decodes (Catalog.roundTrips listed) ran published registered
  obtain ⟨path', delivered, called⟩ := exists_run_audit
    (withEnvelopeTrace .background (effectiveTrace traced toOrders)) (.typed order) rfl
  have consumed : (consume .background m).Runs quiet Eq .main shopFloor _ shopFloor (.ok ()) :=
    (runs_consume_iff read decodes).2 ⟨shopFloor, path', .ok (), rfl, rfl, delivered, rfl⟩
  obtain ⟨_, _, _, _, -, -, -, -, -, handed, -⟩ :=
    published_arrives (.inl listed) ran published registered plain rfl consumed
  have heard := List.mem_cons_of_mem (.performed shopFloor (.host .types)) called
  obtain ⟨-, -, trace⟩ := handed _ heard _ _ _ (.call _ _ _)
  exact ⟨path, w', found, c, m, _, _, ran, published, consumed, heard, trace⟩

end Delivery
end EventDispatch
