import EventDispatch.Event.Basic

namespace EventDispatch

/-- The wire form of an event. The body stands in it as it was encoded, so a receiver that does not know
its type still holds exactly what was sent. -/
structure Envelope where
  eventName : String
  payload : RawJson
  timestamp : Timestamp
  trace : Option String
deriving DecidableEq

namespace Envelope

def enclose (event : Event) (trace : Option String) (now : Timestamp) :
    Except Json.Error Envelope :=
  event.encodeBody.map fun payload => ⟨event.name, payload, now, Text.filled trace⟩

def toText (e : Envelope) : String :=
  "\x7b\"event_name\":" ++ Json.quote e.eventName ++ ",\"payload\":" ++ e.payload.text ++
    ",\"timestamp\":" ++ Json.quote e.timestamp.toText ++
    (match e.trace with
      | some id => ",\"trace_id\":" ++ Json.quote id
      | none => "") ++ "\x7d"

def toBytes (e : Envelope) : Bytes := Text.utf8 e.toText

def readRecord? (r : Json.Record) : Option Envelope := do
  let name ← r.required? 0 ["event_name"] Json.string?
  let payload ← r.required? 1 ["payload"] Text.ofUtf8?
  let timestamp ← r.required? 2 ["timestamp"] fun v => (Json.string? v).bind Timestamp.ofText?
  let trace ← r.withDefault? 3 ["trace_id"] (Json.optional? Json.string?) none
  some ⟨name, ⟨payload⟩, timestamp, Text.filled trace⟩

def ofBytes (bytes : Bytes) : Except Json.Error Envelope :=
  match (Json.document bytes).bind (Json.Record.ofValue? 4) |>.bind readRecord? with
  | some e => .ok e
  | none => .error (.ofDocument bytes)

end Envelope

def RawEvent.ofEnvelope (e : Envelope) : RawEvent := ⟨e.eventName, e.payload, e.timestamp, e.trace⟩

end EventDispatch
