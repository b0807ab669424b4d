import EventDispatch.Proofs.Event.Written
import EventDispatch.Proofs.Wire.Decoding
import EventDispatch.Proofs.Wire.RoundTrip

namespace EventDispatch

/-- What a process has of an event that it received: the event, and the trace that came with it. -/
structure Parcel where
  event : Event
  trace : Option String
deriving DecidableEq

/-- One leg of the way: the moment at which the event is sent on, and the types that the receiver knows. -/
structure Hop where
  now : Timestamp
  types : TypeRegistry

namespace Parcel

/-- The event is sent in its envelope, whose bytes are read and decoded at the other end. -/
def carry (p : Parcel) (hop : Hop) : Except Json.Error Parcel :=
  (Envelope.enclose p.event p.trace hop.now).bind fun envelope =>
    (Envelope.ofBytes envelope.toBytes).bind fun received =>
      (hop.types.decode received).map fun decoded => ⟨decoded.event, decoded.trace⟩

def relay (p : Parcel) : List Hop → Except Json.Error Parcel
  | [] => .ok p
  | hop :: hops => (p.carry hop).bind fun next => next.relay hops

def decodeAs (p : Parcel) (t : EventType) : Except Json.Error TypedEvent :=
  p.event.encodeBody.bind t.decode

def unknown (name : String) (body : RawJson) (trace : Option String) (now : Timestamp) : Parcel :=
  ⟨.raw ⟨name, body, now, Text.filled trace⟩, Text.filled trace⟩

variable {p : Parcel} {hop : Hop} {hops : List Hop} {name : String} {body : RawJson}
  {trace : Option String} {now : Timestamp}

theorem unknown_filled : unknown name body (Text.filled trace) now = unknown name body trace now := by
  rw [unknown, unknown, Text.filled_eq_self (Text.filled_ne_empty trace)]

/-- One hop to a process that does not know the name. -/
theorem carry_unknown (encodes : p.event.encodeBody = .ok body)
    (value : Json.isValue (Text.utf8 body.text)) (unlisted : hop.types.find? p.event.name = none) :
    p.carry hop = .ok (unknown p.event.name body p.trace hop.now) := by
  let envelope : Envelope := ⟨p.event.name, body, hop.now, Text.filled p.trace⟩
  have enclosed : Envelope.enclose p.event p.trace hop.now = .ok envelope := by
    rw [Envelope.enclose, encodes]
    rfl
  have read : Envelope.ofBytes envelope.toBytes = .ok envelope :=
    Envelope.ofBytes_written value (Text.filled_ne_empty p.trace)
  have decoded : hop.types.decode envelope =
      .ok ⟨.raw (.ofEnvelope envelope), envelope.trace, envelope.timestamp⟩ :=
    TypeRegistry.decode_unlisted unlisted
  rw [carry, enclosed, Except.bind, read, Except.bind, decoded]
  rfl

/-- Of the hops only the last leaves a mark: its moment is that of the event that arrives. -/
theorem relay_unknown (encodes : p.event.encodeBody = .ok body)
    (value : Json.isValue (Text.utf8 body.text)) (last : Hop)
    (unlisted : ∀ hop ∈ hops ++ [last], hop.types.find? p.event.name = none) :
    p.relay (hops ++ [last]) = .ok (unknown p.event.name body p.trace last.now) := by
  induction hops generalizing p with
  | nil =>
    have carried := carry_unknown encodes value (unlisted last List.mem_cons_self)
    rw [List.nil_append, relay, carried]
    rfl
  | cons hop hops ih =>
    obtain ⟨here, later⟩ := List.forall_mem_cons.1 unlisted
    -- The parcel that goes on has the name, the body and the trace of the first one.
    have rest : (unknown p.event.name body p.trace hop.now).relay (hops ++ [last]) =
        .ok (unknown p.event.name body (Text.filled p.trace) last.now) := ih rfl later
    rw [List.cons_append, relay, carry_unknown encodes value here, Except.bind, rest, unknown_filled]

/-- An event whose body encodes, to one JSON value as every body, arrives after any number of hops to
processes that do not know its name. It has the name that it had, the body byte for byte and the trace,
an empty one counting as none; reading the body as any type gives what it gave at first. -/
theorem relay_lossless {event : Event} (encodes : event.encodeBody = .ok body)
    (value : Json.isValue (Text.utf8 body.text)) (trace : Option String)
    (unlisted : ∀ hop ∈ hops, hop.types.find? event.name = none) :
    ∃ p : Parcel, (⟨event, trace⟩ : Parcel).relay hops = .ok p ∧
      p.event.name = event.name ∧
      p.event.encodeBody = .ok body ∧
      Text.filled p.trace = Text.filled trace ∧
      (hops ≠ [] → p.trace = Text.filled trace ∧ ∃ raw, p.event = .raw raw ∧ raw.payload = body ∧
        raw.trace = Text.filled trace) ∧
      ∀ t, p.decodeAs t = (⟨event, trace⟩ : Parcel).decodeAs t := by
  rcases hops.eq_nil_or_concat with rfl | ⟨before, last, rfl⟩
  · exact ⟨⟨event, trace⟩, rfl, rfl, encodes, rfl, fun some => absurd rfl some, fun _ => rfl⟩
  · rw [List.concat_eq_append] at unlisted ⊢
    refine ⟨_, relay_unknown encodes value last unlisted, rfl, rfl, ?_, fun _ => ?_, fun t => ?_⟩
    · exact Text.filled_eq_self (Text.filled_ne_empty trace)
    · exact ⟨rfl, _, rfl, rfl, rfl⟩
    · rw [decodeAs, decodeAs, encodes]
      rfl

def shop : Hop := ⟨.epoch, Keyed.empty.insert "order.created" Catalog.orderCreated⟩

/-- A body with blanks inside, odd escapes, numbers that fit no type, and a key that is given twice. -/
def oddBody : RawJson :=
  ⟨"\x7b\"a\" : [ [], -1.50e+3,\t\x7b\"\\ud83d\\u0000\": null\x7d ], \"a\":98765432109876543210e999 \x7d"⟩

def oddEvent : Event := .foreign ⟨"order.created.\"é\"", .epoch, .inl oddBody⟩

theorem odd_event_relayed :
    Json.isValue (Text.utf8 oddBody.text) ∧ ∃ p : Parcel,
      (⟨oddEvent, some ""⟩ : Parcel).relay [shop, ⟨.epoch, .empty⟩, shop] = .ok p ∧
        p.event.name = "order.created.\"é\"" ∧ p.event.encodeBody = .ok oddBody ∧ p.trace = none := by
  have value : Json.isValue (Text.utf8 oddBody.text) := by decide +kernel
  have unlisted : ∀ hop ∈ [shop, ⟨.epoch, .empty⟩, shop], hop.types.find? oddEvent.name = none := by
    have shop : shop.types.find? oddEvent.name = none := by decide +kernel
    exact List.forall_mem_cons.2 ⟨shop, List.forall_mem_cons.2 ⟨rfl, List.forall_mem_singleton.2 shop⟩⟩
  obtain ⟨p, relayed, name, body, -, raw, -⟩ := relay_lossless rfl value (some "") unlisted
  obtain ⟨trace, -⟩ := raw (List.cons_ne_nil _ _)
  exact ⟨value, p, relayed, name, body, trace⟩

end Parcel
end EventDispatch
