import EventDispatch.Proofs.Delivery.Arrival
import EventDispatch.Proofs.Rerouted

namespace EventDispatch

variable {h : Host} {α : Type}

namespace Delivery

open Program Sight

variable {app : Application h} {meanwhile : World h → World h → Prop} {t : Thread}
  {w v w' v' : World h} {m : Message} {result : DispatchResult} {path path' : List (Sight h)}

structure SameCalls (path path' : List (Sight h)) : Prop where
  handled : handled path' = handled path
  answers : answers path' = answers path

/-- Whatever runs in `w` runs in `v`: with the same result, the same listener calls and the same registry
afterwards. -/
def Mirrored (app : Application h) (meanwhile : World h → World h → Prop) (t : Thread)
    (p : Program h α) (w v : World h) : Prop :=
  ∀ path w' a, p.Shows app meanwhile t w path w' a → ∃ path' v',
    p.Shows app meanwhile t v path' v' a ∧ SameCalls path path' ∧ v'.registry = w'.registry ∧
      w'.Alike v'

theorem mirrored {p : Program h α} (own : app.IsLocal) (blind : World.Blind meanwhile)
    (hp : p.IsLocal) (alike : w.Alike v) : Mirrored app meanwhile t p w v := by
  intro path w' a ran
  obtain ⟨path', v', ran', alike', shown⟩ := ran.exists_alike blind own hp alike
  exact ⟨path', v', ran', ⟨handled_of_alike shown, answers_of_alike shown⟩, alike'.registry, alike'⟩

theorem isLocal_listenerJob (e : Entry h) (ctx : Context) (event : Event) :
    (Job.listener e ctx event).program.IsLocal :=
  fun r => isLocal_logListenerFailure e.id event r

def asConsumed (m : Message) (result : DispatchResult) : Except ConsumeError Unit :=
  match Envelope.ofBytes m.payload with
  | .error e => .error (.decode m.id e)
  | .ok _ => result.mapError (.dispatch m.id)

theorem consume_eq (ctx : Context) (m : Message) :
    (consume ctx m : Program h (Except ConsumeError Unit)) =
      (receive ctx m.payload).bind fun result => .done (asConsumed m result) := by
  unfold consume receive asConsumed
  cases Envelope.ofBytes m.payload <;> rfl

structure Consumed (m : Message) (result : DispatchResult) (answer : Except ConsumeError Unit) :
    Prop where
  succeeds : answer = .ok () ↔ result = .ok ()
  decode : ∀ id e, answer = .error (.decode id e) ↔ id = m.id ∧ Envelope.ofBytes m.payload = .error e
  dispatch : ∀ id e, answer = .error (.dispatch id e) ↔
    id = m.id ∧ (∃ envelope, Envelope.ofBytes m.payload = .ok envelope) ∧ result = .error e
  broker : ∀ e, answer ≠ .error (.broker e)

/-- Without an envelope neither has an event to deliver. -/
theorem receive_of_unread {ctx : Context} {bytes : Bytes} {e : Json.Error}
    (unread : Envelope.ofBytes bytes = .error e) :
    (receive ctx bytes : Program h DispatchResult) = .done (.error (.decode e)) := by
  rw [receive, unread]
  rfl

theorem asConsumed_of_unread {e : Json.Error} (unread : Envelope.ofBytes m.payload = .error e) :
    asConsumed m result = .error (.decode m.id e) := by
  rw [asConsumed, unread]

theorem asConsumed_of_read {envelope : Envelope} (read : Envelope.ofBytes m.payload = .ok envelope) :
    asConsumed m result = result.mapError (.dispatch m.id) := by
  rw [asConsumed, read]

theorem consumed_of_received {ctx : Context}
    (ran : (receive ctx m.payload).Shows app meanwhile t w path w' result) :
    Consumed m result (asConsumed m result) := by
  cases read : Envelope.ofBytes m.payload with
  | error e =>
    rw [receive_of_unread read] at ran
    obtain ⟨-, -, rfl⟩ := shows_done_iff.1 ran
    rw [asConsumed_of_unread read]
    constructor <;> simp [read, eq_comm]
  | ok envelope =>
    rw [asConsumed_of_read read]
    cases result with
    | ok u => constructor <;> simp [read, Except.mapError]
    | error error => constructor <;> simp [read, Except.mapError, eq_comm]

/-- A received message stays in this process. On two dispatchers that differ in their routes and in
their publisher only, and whose application does not look at these and dispatches in memory if at all,
the same bytes have the same result, the same listener calls and the same registry afterwards, at once
and on the workers, and whatever the application does, the delivery itself publishes nothing. A
consumer does the same with a message's payload. It succeeds when the delivery does, reports bytes that
are no envelope as such, and any other failure as that of the dispatch. -/
theorem received_stays_local (app : Application h) (meanwhile : World h → World h → Prop) (t : Thread)
    (ctx : Context) (bytes : Bytes) (m : Message) (w : World h) :
    (app.IsLocal → World.Blind meanwhile → ∀ v, w.Alike v →
      Mirrored app meanwhile t (receive ctx bytes) w v ∧
      (∀ e own event, Mirrored app meanwhile t (Job.listener e own event).program w v) ∧
      (Relator.RightUnique meanwhile → ∀ path w' result path' v' result',
        (receive ctx bytes).Shows app meanwhile t w path w' result →
        (receive ctx bytes).Shows app meanwhile t v path' v' result' →
        result' = result ∧ SameCalls path path' ∧ v'.registry = w'.registry)) ∧
    (∀ path w' result, (receive ctx bytes).Shows app meanwhile t w path w' result →
      ∀ s ∈ path, s.footstep.Within (fun o => ¬o.Publishes) fun _ => True) ∧
    (consume ctx m : Program h (Except ConsumeError Unit)) =
      ((receive ctx m.payload).bind fun result => .done (asConsumed m result)) ∧
    ∀ path w' result, (receive ctx m.payload).Shows app meanwhile t w path w' result →
      Consumed m result (asConsumed m result) := by
  refine ⟨fun own blind v alike => ⟨?_, fun e own' event => ?_, ?_⟩, fun path w' result ran => ?_,
    consume_eq ctx m, fun path w' result ran => consumed_of_received ran⟩
  · exact mirrored own blind (isLocal_receive ctx bytes) alike
  · exact mirrored own blind (isLocal_listenerJob e own' event) alike
  · intro settled path w' result path' v' result' ran ran'
    obtain ⟨path'', v'', ran'', same, registry, -⟩ :=
      mirrored own blind (isLocal_receive ctx bytes) alike path w' result ran
    obtain ⟨rfl, rfl, rfl⟩ := ran''.unique settled ran'
    exact ⟨rfl, same, registry⟩
  · exact ran.not_publishes (isLocal_receive ctx bytes)

def catchAll : RouteTable := .load [("*", ⟨.external, some "all"⟩)]

theorem isLocal_quiet : quiet.IsLocal := ⟨fun _ _ _ => trivial, fun code => nomatch code⟩

theorem exists_received : ∃ bytes path, (receive .background bytes).Shows quiet Eq .main shopFloor path
    shopFloor (.ok ()) ∧ handled path = [.called audit .background (.typed order)] := by
  let envelope : Envelope := ⟨order.type.eventName, order.body, .epoch, none⟩
  have read : Envelope.ofBytes envelope.toBytes = .ok envelope :=
    Envelope.ofBytes_written order.isValue_body nofun
  have known : (shopFloor.answer .main (.host .types)).1.decode envelope =
      .ok ⟨.typed order, none, .epoch⟩ := by
    have listed : shopFloor.types.find? envelope.eventName = some order.type := rfl
    have rebuilt : order.type.decode order.body = .ok order := Catalog.roundTrips List.mem_cons_self
    exact TypeRegistry.decode_listed listed rebuilt
  have heard : (quiet.body (.listener audit .background (.typed order))).Runs quiet Eq .main
      shopFloor [] shopFloor (.ok ()) := .done _ _
  let steps : List (Sight quietHost) := [.performed shopFloor (.snapshot "order.created"),
    .performed shopFloor (.claim audit), .heard audit .background (.typed order) (.ok ()),
    .performed shopFloor (.spent [audit])]
  have delivered : (deliver .background (.typed order)).Shows quiet Eq .main shopFloor steps shopFloor
      (.ok ()) :=
    .perform rfl rfl (.perform rfl rfl (.listener heard (.perform rfl rfl (.done _ _))))
  refine ⟨envelope.toBytes, .performed shopFloor (.host .types) :: steps, ?_, rfl⟩
  rw [receive, read]
  refine shows_op_bind_iff.2 ⟨rfl, shopFloor, _, rfl, rfl, ?_⟩
  rw [known]
  exact delivered

/-- Where all events are routed to the broker, a received one is still heard here and not published. -/
theorem received_past_catchAll : catchAll.route? "order.created" = some ⟨.external, some "all"⟩ ∧
    ∃ bytes path v', (receive .background bytes).Shows quiet Eq .main
        (shopFloor.rerouted catchAll (some .bus)) path v' (.ok ()) ∧
      handled path = [.called audit .background (.typed order)] ∧
      v'.registry = shopFloor.registry ∧
      ∀ s ∈ path, s.footstep.Within (fun o => ¬o.Publishes) fun _ => True := by
  have alike : shopFloor.Alike (shopFloor.rerouted catchAll (some .bus)) := ⟨_, _, rfl⟩
  obtain ⟨bytes, path, ran, shown⟩ := exists_received
  obtain ⟨same, -⟩ := received_stays_local quiet Eq .main .background bytes
    ⟨"m-1", "orders", "order.created", "order.created", bytes, []⟩ shopFloor
  obtain ⟨mirrored, -⟩ := same isLocal_quiet World.blind_eq _ alike
  obtain ⟨path', v', ran', calls, registry, -⟩ := mirrored _ _ _ ran
  have silent := (received_stays_local quiet Eq .main .background bytes
    ⟨"m-1", "orders", "order.created", "order.created", bytes, []⟩ _).2.1 _ _ _ ran'
  exact ⟨by decide +kernel, bytes, path', v', ran', calls.handled.trans shown, registry, silent⟩

end Delivery
end EventDispatch
