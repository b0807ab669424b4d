import EventDispatch.Proofs.Delivery.Arrival
import EventDispatch.Proofs.Delivery.Isolated
import EventDispatch.Proofs.Event.Written

namespace EventDispatch

variable {h : Host}

namespace Application

variable {app : Application h} {e : Entry h} {t : EventType} {code : h.Listener} {v : TypedEvent}
  {event : Event} {ctx : Context}

theorem typedEvent_self (same : v.type = t) : typedEvent t (.typed v) = .ok v := if_pos same

theorem typedEvent_other (other : v.type ≠ t) :
    typedEvent t (.typed v) = .error (.rejected (v.type.eventName ++ " is not a " ++ t.typeName)) :=
  if_neg other

theorem typedEvent_raw {raw : RawEvent} (decodes : t.decode raw.payload = .ok v) :
    typedEvent t (.raw raw) = .ok v := by
  rw [typedEvent, decodes]

theorem typedEvent_raw_fails {raw : RawEvent} {error : Json.Error}
    (fails : t.decode raw.payload = .error error) :
    typedEvent t (.raw raw) = .error (.other error.message) := by
  rw [typedEvent, fails]

/-- The listener's code is run with the value that its handler finds in the event. -/
theorem body_of_typedEvent (typed : e.handler = .typed t code) (finds : typedEvent t event = .ok v) :
    app.body (.listener e ctx event) = (app.listen code ctx (.typed v)).program := by
  simp only [body, runListener, typed, finds]

/-- Where the handler finds none, the listener's code is not run. -/
theorem body_of_typedEvent_fails {error : ListenerError} (typed : e.handler = .typed t code)
    (fails : typedEvent t event = .error error) :
    app.body (.listener e ctx event) = .done (.error error) := by
  simp only [body, runListener, typed, fails]
  rfl

/-- The registry and the handler read a body alike. -/
theorem exists_typedEvent {types : TypeRegistry} {envelope : Envelope}
    (known : types.find? envelope.eventName = some t ∨ types.find? envelope.eventName = none)
    (named : envelope.eventName = t.eventName) (decodes : t.decode envelope.payload = .ok v) :
    ∃ event, types.decode envelope = .ok ⟨event, envelope.trace, envelope.timestamp⟩ ∧
      event.name = t.eventName ∧ typedEvent t event = .ok v := by
  have type := EventType.type_of_decode decodes
  rcases known with listed | unlisted
  · exact ⟨.typed v, TypeRegistry.decode_listed listed decodes, congrArg (·.eventName) type,
      typedEvent_self type⟩
  · exact ⟨.raw (.ofEnvelope envelope), TypeRegistry.decode_unlisted unlisted, named,
      typedEvent_raw decodes⟩

end Application

namespace Delivery

open Application Program Sight

/-- What a delivery shows that offers an event to the only listener, for which the call of the listener
stands for the program `p`. An inline listener decides the result. An async one is called, or its call
is accepted or refused by the pool, and the delivery does not fail. -/
inductive Offered (app : Application h) (meanwhile : World h → World h → Prop) (th : Thread)
    (e : Entry h) (ctx : Context) (name : String) (p : Program h ListenerResult)
    (path : List (Sight h)) (result : DispatchResult) : Prop where
  | inline {event : Event} {v v' : World h} {steps : List (Footstep h)} {r : ListenerResult}
      (inline : e.options.asynchronous = false) (stands : app.body (.listener e ctx event) = p)
      (shown : handled path = [.called e ctx event]) (ran : p.Runs app meanwhile th v steps v' r)
      (answered : result = outcome name r)
  | async {event : Event} {d : Handling h} (asynchronous : e.options.asynchronous = true)
      (stands : app.body (.listener e ctx event) = p) (shown : handled path = [d])
      (offered : d.IsOf e ctx event) (answered : result = .ok ())

/-- Every run of the program `q` offers the event to the only listener, and there is a run if the
listener's program `p` has one whenever it is called. -/
structure Offers (app : Application h) (meanwhile : World h → World h → Prop) (th : Thread)
    (w : World h) (q : Program h DispatchResult) (e : Entry h) (ctx : Context) (name : String)
    (p : Program h ListenerResult) : Prop where
  shows : ∀ path w' result, q.Shows app meanwhile th w path w' result →
    Offered app meanwhile th e ctx name p path result
  ends : (∀ v, p.Returns app meanwhile th v) →
    (e.options.asynchronous = true → w.pool.held = false) →
    ∃ path w' result, q.Shows app meanwhile th w path w' result

/-- The call of the only listener comes to this error and nothing else; only an inline one fails the
delivery. -/
structure Unheard (app : Application h) (meanwhile : World h → World h → Prop) (th : Thread)
    (w : World h) (q : Program h DispatchResult) (e : Entry h) (ctx : Context) (name : String)
    (error : ListenerError) : Prop where
  offers : Offers app meanwhile th w q e ctx name (.done (.error error))
  fails : e.options.asynchronous = false → ∀ path w' result,
    q.Shows app meanwhile th w path w' result → result = .error (.listener name error)
  passes : e.options.asynchronous = true → ∀ path w' result,
    q.Shows app meanwhile th w path w' result → result = .ok ()

variable {app : Application h} {meanwhile : World h → World h → Prop} {th : Thread} {ctx : Context}
  {event : Event} {e : Entry h} {w w' : World h} {path : List (Sight h)} {result : DispatchResult}
  {name : String} {p : Program h ListenerResult} {q : Program h DispatchResult}

theorem Offered.of_eq {shown : List (Sight h)}
    (offered : Offered app meanwhile th e ctx name p shown result)
    (same : handled path = handled shown) : Offered app meanwhile th e ctx name p path result := by
  cases offered with
  | inline inline stands handled body answered =>
    exact .inline inline stands (same.trans handled) body answered
  | async asynchronous stands handled offered answered =>
    exact .async asynchronous stands (same.trans handled) offered answered

theorem Offers.unheard {error : ListenerError}
    (offers : Offers app meanwhile th w q e ctx name (.done (.error error)))
    (other : error ≠ .stopPropagation) : Unheard app meanwhile th w q e ctx name error := by
  refine ⟨offers, fun inline path w' result ran => ?_, fun asynchronous path w' result ran => ?_⟩
  · cases offers.shows _ _ _ ran with
    | inline _ _ _ body answered =>
      obtain ⟨-, -, rfl⟩ := runs_done_iff.1 body
      rw [answered, outcome_of_failure other]
    | async asynchronous => cases inline.symm.trans asynchronous
  · cases offers.shows _ _ _ ran with
    | inline inline => cases inline.symm.trans asynchronous
    | async _ _ _ _ answered => exact answered

theorem Unheard.exists_failure {error : ListenerError}
    (unheard : Unheard app meanwhile th w q e ctx name error)
    (inline : e.options.asynchronous = false) :
    ∃ path w', q.Shows app meanwhile th w path w' (.error (.listener name error)) := by
  obtain ⟨path, w', result, ran⟩ := unheard.offers.ends (fun v => returns_done _)
    fun asynchronous => nomatch inline.symm.trans asynchronous
  obtain rfl := unheard.fails inline _ _ _ ran
  exact ⟨path, w', ran⟩

theorem callListeners_offered {r : ListenerResult} (unspent : w.registry.isSpent e = false)
    (stands : app.body (.listener e ctx event) = p)
    (ran : (callListeners event ctx event [e]).Shows app meanwhile th w path w' r) :
    Offered app meanwhile th e ctx name p path (outcome name r) := by
  cases walkStep_of_shows ran with
  | skip spent others rest => cases unspent.symm.trans spent
  | spawn _ asynchronous others spawned rest =>
    obtain ⟨rfl, -, rfl⟩ := shows_done_iff.1 rest
    obtain ⟨d, turn, offered⟩ := spawnListener_turn asynchronous spawned
    refine .async asynchronous stands ?_ offered rfl
    rw [handled_cons_none rfl, List.append_nil, turn.shown]
  | pass _ inline others body rest =>
    obtain ⟨rfl, -, rfl⟩ := shows_done_iff.1 rest
    rw [stands] at body
    exact .inline inline stands rfl body rfl
  | stop _ inline others body =>
    rw [stands] at body
    exact .inline inline stands rfl body rfl

/-- A delivery to a single entry that is unclaimed. -/
theorem deliver_offered (spares : ∀ v v', meanwhile v v' → v.Spares v')
    (listed : w.registry.snapshot event.name = ⟨[e], []⟩) (unspent : w.registry.isSpent e = false)
    (stands : app.body (.listener e ctx event) = p)
    (ran : (deliver ctx event).Shows app meanwhile th w path w' result) :
    Offered app meanwhile th e ctx event.name p path result := by
  obtain ⟨w₁, walk, w₂, r, last, others, rfl, walked, swept⟩ := shows_deliver_iff.1 ran
  obtain ⟨entries, interceptors⟩ := Snapshot.mk.inj listed
  rw [entries, interceptors] at walked
  rw [← (spares _ _ others).registry] at unspent
  obtain rfl := sweep_answer swept
  obtain ⟨aside, -, -⟩ := sweep_shows swept
  apply (callListeners_offered unspent stands walked).of_eq
  rw [handled_cons_none rfl, handled_append, aside.shown, List.append_nil]

theorem submit_returns (idle : ∀ v : World h, meanwhile v v) (free : w.pool.held = false)
    (job : Job h) : (submit job).Returns app meanwhile th w := by
  refine .op idle rfl ?_
  split
  · exact .op idle rfl (returns_done _)
  · have ready : w.isReady th (.enqueue job) = true := by
      show (!w.pool.held) = true
      rw [free]
      rfl
    refine .op idle ready ?_
    split
    · exact .op idle rfl (returns_done _)
    · exact .op idle rfl (returns_done _)

theorem logListenerFailure_returns (idle : ∀ v : World h, meanwhile v v) (id : Nat)
    (r : ListenerResult) : (logListenerFailure id event r).Returns app meanwhile th w := by
  unfold logListenerFailure
  split
  · exact returns_done ()
  · exact returns_done ()
  · exact .op idle rfl (returns_done ())

theorem spawnListener_returns (idle : ∀ v : World h, meanwhile v v) (free : w.pool.held = false)
    (body : ∀ v, (app.body (.listener e ctx event)).Returns app meanwhile th v) :
    (spawnListener ctx e event).Returns app meanwhile th w := by
  refine .op idle rfl ?_
  split
  · exact .call (body _) fun v r => logListenerFailure_returns idle e.id r
  · refine .bind (.bind (submit_returns idle free _) fun v r => ?_) fun v accepted => ?_
    · cases r with
      | ok u => exact returns_done true
      | error error => exact .op idle rfl (returns_done false)
    · cases accepted with
      | true => exact returns_done ()
      | false => exact .op idle rfl (returns_done ())

/-- A delivery to a single entry comes to an end when the listener does and nobody holds the pool. -/
theorem deliver_returns (idle : ∀ v : World h, meanwhile v v)
    (listed : w.registry.snapshot event.name = ⟨[e], []⟩)
    (free : e.options.asynchronous = true → w.pool.held = false)
    (body : ∀ v, (app.body (.listener e ctx event)).Returns app meanwhile th v) :
    (deliver ctx event).Returns app meanwhile th w := by
  have found : (w.answer th (.snapshot event.name)).1 = ⟨[e], []⟩ := listed
  rw [deliver_eq]
  refine .op idle rfl ?_
  rw [found]
  refine .bind (.op idle rfl ?_) fun v r => ?_
  · split
    · split
      · next asynchronous =>
        exact .bind (spawnListener_returns idle (free asynchronous) body) fun v u => returns_done _
      · refine .call (body _) fun v r => ?_
        cases r with
        | ok u => exact returns_done _
        | error error => exact returns_done _
    · exact returns_done _
  · obtain ⟨_, w', swept⟩ := exists_idle_sweep idle app th event v [e] r
    obtain ⟨path, swept⟩ := swept.runs
    exact ⟨path, w', _, swept⟩

variable {envelope : Envelope} {stamp : Timestamp}

theorem shows_dispatchEnvelope_iff
    (decodes : w.types.decode envelope = .ok ⟨event, envelope.trace, stamp⟩) :
    (dispatchEnvelope ctx envelope).Shows app meanwhile th w path w' result ↔
      ∃ w₁ rest, meanwhile w w₁ ∧ path = .performed w (.host .types) :: rest ∧
        (deliver (withEnvelopeTrace ctx envelope.trace) event).Shows app meanwhile th w₁ rest w'
          result := by
  have known : (w.answer th (.host .types)).1.decode envelope =
    .ok ⟨event, envelope.trace, stamp⟩ := decodes
  constructor
  · intro ran
    obtain ⟨-, w₁, rest, others, rfl, ran₁⟩ := shows_op_bind_iff.1 ran
    rw [known] at ran₁
    exact ⟨w₁, rest, others, rfl, ran₁⟩
  · rintro ⟨w₁, rest, others, rfl, ran⟩
    refine shows_op_bind_iff.2 ⟨rfl, w₁, rest, others, rfl, ?_⟩
    rw [known]
    exact ran

theorem shows_dispatchEnvelope_fails_iff {error : Json.Error}
    (fails : w.types.decode envelope = .error error) :
    (dispatchEnvelope ctx envelope).Shows app meanwhile th w path w' result ↔
      meanwhile w w' ∧ path = [.performed w (.host .types)] ∧ result = .error (.decode error) := by
  have known : (w.answer th (.host .types)).1.decode envelope = .error error := fails
  constructor
  · intro ran
    obtain ⟨-, w₁, rest, others, rfl, ran₁⟩ := shows_op_bind_iff.1 ran
    rw [known] at ran₁
    obtain ⟨rfl, rfl, rfl⟩ := shows_done_iff.1 ran₁
    exact ⟨others, rfl, rfl⟩
  · rintro ⟨others, rfl, rfl⟩
    refine shows_op_bind_iff.2 ⟨rfl, w', [], others, rfl, ?_⟩
    rw [known]
    exact .done _ _

theorem dispatchEnvelope_offers (spares : ∀ v v', meanwhile v v' → v.Spares v')
    (idle : ∀ v, meanwhile v v) (listed : w.registry.snapshot name = ⟨[e], []⟩)
    (unspent : w.registry.isSpent e = false)
    (decodes : w.types.decode envelope = .ok ⟨event, envelope.trace, stamp⟩)
    (named : event.name = name)
    (stands : app.body (.listener e (withEnvelopeTrace ctx envelope.trace) event) = p) :
    Offers app meanwhile th w (dispatchEnvelope ctx envelope) e (withEnvelopeTrace ctx envelope.trace)
      name p := by
  subst named
  refine ⟨fun path w' result ran => ?_, fun returns free => ?_⟩
  · obtain ⟨w₁, rest, others, rfl, ran₁⟩ := (shows_dispatchEnvelope_iff decodes).1 ran
    have registry := (spares _ _ others).registry
    rw [← registry] at listed unspent
    have offered := deliver_offered spares listed unspent stands ran₁
    exact offered.of_eq (handled_cons_none rfl)
  · rw [← stands] at returns
    obtain ⟨_, w', result, ran⟩ := deliver_returns idle listed free returns
    obtain ⟨path, ran⟩ := ran.shows
    exact ⟨_, w', result, (shows_dispatchEnvelope_iff decodes).2 ⟨w, path, idle w, rfl, ran⟩⟩

variable {t : EventType} {code : h.Listener}

theorem dispatchEnvelope_unheard {error : ListenerError}
    (spares : ∀ v v', meanwhile v v' → v.Spares v') (idle : ∀ v, meanwhile v v)
    (typed : e.handler = .typed t code) (listed : w.registry.snapshot name = ⟨[e], []⟩)
    (unspent : w.registry.isSpent e = false)
    (decodes : w.types.decode envelope = .ok ⟨event, envelope.trace, stamp⟩)
    (named : event.name = name) (fails : typedEvent t event = .error error)
    (other : error ≠ .stopPropagation) :
    Unheard app meanwhile th w (dispatchEnvelope ctx envelope) e (withEnvelopeTrace ctx envelope.trace)
      name error := by
  have stands : app.body (.listener e (withEnvelopeTrace ctx envelope.trace) event) =
      .done (.error error) := body_of_typedEvent_fails typed fails
  exact (dispatchEnvelope_offers spares idle listed unspent decodes named stands).unheard other

/-- A typed listener that is the only one under the name of its type, and is not claimed, does not depend
on whether the type is registered, as long as no other thread changes the registry of listeners. Of an
envelope with a body that decodes it gets the same value under the same context when the type is
registered and when nothing is. A body that does not decode fails the dispatch before its delivery when
the type is registered. When nothing is, it is the listener that fails, and likewise when another type
is registered that decodes the body; then the listener's code is not run, and the failure is that of the
dispatch unless the listener is async. -/
theorem typed_independent_of_registration (spares : ∀ v v', meanwhile v v' → v.Spares v')
    (idle : ∀ v, meanwhile v v) (typed : e.handler = .typed t code)
    (listed : w.registry.snapshot t.eventName = ⟨[e], []⟩) (unspent : w.registry.isSpent e = false)
    (named : envelope.eventName = t.eventName) (ctx : Context) :
    (∀ v, t.decode envelope.payload = .ok v →
      w.types.find? t.eventName = some t ∨ w.types.find? t.eventName = none →
      Offers app meanwhile th w (dispatchEnvelope ctx envelope) e
        (withEnvelopeTrace ctx envelope.trace) t.eventName
        (app.listen code (withEnvelopeTrace ctx envelope.trace) (.typed v)).program) ∧
    (∀ error, t.decode envelope.payload = .error error →
      (w.types.find? t.eventName = some t →
        (∀ path w' result,
          (dispatchEnvelope ctx envelope).Shows app meanwhile th w path w' result →
          handled path = [] ∧ result = .error (.decode error)) ∧
        ∃ path w' result, (dispatchEnvelope ctx envelope).Shows app meanwhile th w path w' result) ∧
      (w.types.find? t.eventName = none →
        Unheard app meanwhile th w (dispatchEnvelope ctx envelope) e
          (withEnvelopeTrace ctx envelope.trace) t.eventName (.other error.message))) ∧
    ∀ u v, w.types.find? t.eventName = some u → u.eventName = t.eventName → u ≠ t →
      u.decode envelope.payload = .ok v →
      Unheard app meanwhile th w (dispatchEnvelope ctx envelope) e
        (withEnvelopeTrace ctx envelope.trace) t.eventName
        (.rejected (t.eventName ++ " is not a " ++ t.typeName)) := by
  rw [← named] at listed ⊢
  refine ⟨fun v decodes known => ?_, fun error fails => ⟨fun own => ?_, fun none => ?_⟩,
    fun u v other shared differs decodes => ?_⟩
  -- The body decodes; it does not; or it decodes as the other type that has the name.
  · obtain ⟨event, decoded, name, finds⟩ := exists_typedEvent known named decodes
    exact dispatchEnvelope_offers spares idle listed unspent decoded (name.trans named.symm)
      (body_of_typedEvent typed finds)
  · have failed := TypeRegistry.decode_fails own fails
    refine ⟨fun path w' result ran => ?_, ?_⟩
    · obtain ⟨-, rfl, rfl⟩ := (shows_dispatchEnvelope_fails_iff failed).1 ran
      exact ⟨rfl, rfl⟩
    · exact ⟨_, w, _, (shows_dispatchEnvelope_fails_iff failed).2 ⟨idle w, rfl, rfl⟩⟩
  · have decoded := TypeRegistry.decode_unlisted none
    have finds : typedEvent t (.raw (.ofEnvelope envelope)) = .error (.other error.message) :=
      typedEvent_raw_fails fails
    exact dispatchEnvelope_unheard spares idle typed listed unspent decoded rfl finds nofun
  · have type := EventType.type_of_decode decodes
    have decoded := TypeRegistry.decode_listed other decodes
    have name : (Event.typed v).name = envelope.eventName := by
      rw [Event.name, type, shared]
    have finds : typedEvent t (.typed v) =
        .error (.rejected (envelope.eventName ++ " is not a " ++ t.typeName)) := by
      rw [← name]
      exact typedEvent_other (type ▸ differs)
    exact dispatchEnvelope_unheard spares idle typed listed unspent decoded name finds nofun

def clerk : Application quietHost where
  listen _ ctx event :=
    return .error (.rejected (event.kind ++ " under " ++ ctx.trace?.getD "no trace"))
  intercept i := nomatch i
  run e := nomatch e

def desk : Entry quietHost := ⟨1, .typed Catalog.orderCreated (), ⟨0, false, false⟩⟩

def office (types : TypeRegistry) (e : Entry quietHost) : World quietHost :=
  { World.start default none () with
    types
    registry := ⟨Keyed.empty.insert "order.created" [e], [], []⟩ }

def listing (t : EventType) : TypeRegistry := Keyed.empty.insert "order.created" t

def parcel (body : RawJson) : Envelope := ⟨"order.created", body, .epoch, some "t-9"⟩

def legacyOrder : TypedEvent := ⟨Catalog.legacyOrderCreated, 7, .epoch, ()⟩

def FailsAtDesk (types : TypeRegistry) (body : RawJson) (error : DispatchError) : Prop :=
  ∃ path w', (dispatchEnvelope .background (parcel body)).Shows clerk Eq .main (office types desk) path
    w' (.error error)

/-- The clerk sees the same order under the same trace, whether the type is registered or not. -/
theorem clerk_sees_same_order :
    FailsAtDesk (listing Catalog.orderCreated) order.body
        (.listener "order.created" (.rejected "OrderCreated under t-9")) ∧
      FailsAtDesk .empty order.body
        (.listener "order.created" (.rejected "OrderCreated under t-9")) ∧
      FailsAtDesk (listing Catalog.orderCreated) ⟨"7"⟩ (.decode (.malformed ⟨1, 1⟩)) ∧
      FailsAtDesk .empty ⟨"7"⟩
        (.listener "order.created" (.other "malformed JSON at line 1 column 1")) ∧
      FailsAtDesk (listing Catalog.legacyOrderCreated) legacyOrder.body
        (.listener "order.created" (.rejected "order.created is not a OrderCreated")) := by
  have spares : ∀ v v' : World quietHost, v = v' → v.Spares v' := fun v _ same => same ▸ .refl v
  have told := fun types body => @typed_independent_of_registration quietHost clerk Eq .main desk
    (office types desk) (parcel body) Catalog.orderCreated () spares (fun _ => rfl) rfl rfl rfl rfl
    .background
  have read : order.RoundTrips := Catalog.roundTrips List.mem_cons_self
  have unread : Catalog.orderCreated.decode ⟨"7"⟩ = .error (.malformed ⟨1, 1⟩) := rfl
  have legacy : legacyOrder.RoundTrips :=
    Catalog.roundTrips (List.mem_cons_of_mem _ List.mem_cons_self)
  refine ⟨?_, ?_, ?_, ?_, ?_⟩
  · exact (Offers.unheard ((told _ _).1 order read (.inl rfl)) nofun).exists_failure rfl
  · exact (Offers.unheard ((told _ _).1 order read (.inr rfl)) nofun).exists_failure rfl
  · obtain ⟨all, path, w', result, ran⟩ := ((told (listing Catalog.orderCreated) _).2.1 _ unread).1 rfl
    obtain ⟨-, rfl⟩ := all _ _ _ ran
    exact ⟨path, w', ran⟩
  · exact (((told _ _).2.1 _ unread).2 rfl).exists_failure rfl
  · exact ((told _ _).2.2 Catalog.legacyOrderCreated legacyOrder rfl rfl nofun legacy).exists_failure rfl

def backroom : Entry quietHost := ⟨1, .typed Catalog.orderCreated (), ⟨0, true, false⟩⟩

def seat : Entry quietHost := ⟨1, .typed Catalog.orderCreated (), ⟨0, false, true⟩⟩

/-- The seat is taken by another delivery that is still under way. -/
def taken : World quietHost := ((office .empty seat).answer .main (.claim seat)).2

/-- A body that an async listener cannot decode does not fail the dispatch. A `once` listener that is
claimed does not see a body that decodes. -/
theorem backroom_and_taken_seat_pass :
    ((office .empty backroom).registry.snapshot Catalog.orderCreated.eventName = ⟨[backroom], []⟩ ∧
      (office .empty backroom).types.find? Catalog.orderCreated.eventName = none ∧
      Catalog.orderCreated.decode (parcel ⟨"7"⟩).payload = .error (.malformed ⟨1, 1⟩) ∧
      ∃ path w', (dispatchEnvelope .background (parcel ⟨"7"⟩)).Shows clerk Eq .main
        (office .empty backroom) path w' (.ok ())) ∧
    (taken.registry.snapshot Catalog.orderCreated.eventName = ⟨[seat], []⟩ ∧
      taken.types.find? Catalog.orderCreated.eventName = none ∧
      Catalog.orderCreated.decode (parcel order.body).payload = .ok order ∧
      ∃ path w', (dispatchEnvelope .background (parcel order.body)).Shows clerk Eq .main taken path w'
        (.ok ()) ∧ handled path = []) := by
  have read : order.RoundTrips := Catalog.roundTrips List.mem_cons_self
  constructor
  · -- The types, the snapshot, the claim, the settings, the job's way into the pool, and the sweep.
    exact ⟨rfl, rfl, rfl, _, _, .perform rfl rfl (.perform rfl rfl (.perform rfl rfl (.perform rfl rfl
      (.perform rfl rfl (.perform rfl rfl (.perform rfl rfl (.perform rfl rfl (.done _ _))))))))⟩
  · -- The types, the snapshot, the claim that is refused, and the sweep.
    exact ⟨rfl, rfl, read, _, _, .perform rfl rfl (.perform rfl rfl (.perform rfl rfl (.perform rfl rfl
      (.perform rfl rfl (.done _ _))))), rfl⟩

end Delivery
end EventDispatch
