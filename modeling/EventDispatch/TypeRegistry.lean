import EventDispatch.Envelope
import EventDispatch.Keyed

namespace EventDispatch

structure TypeConflict where
  name : String
  existing : String
  incoming : String
deriving DecidableEq

def TypeConflict.message (c : TypeConflict) : String :=
  "event name " ++ c.name ++ " is already registered to " ++ c.existing ++ ", cannot register " ++
    c.incoming

/-- An event rebuilt from an envelope, with what the envelope said beside it. -/
structure Decoded where
  event : Event
  trace : Option String
  timestamp : Timestamp
deriving DecidableEq

abbrev TypeRegistry := Keyed EventType

namespace TypeRegistry

/-- The first type under a name keeps it. -/
def register (r : TypeRegistry) (t : EventType) : Except TypeConflict TypeRegistry :=
  match r.find? t.eventName with
  | some existing =>
    if existing = t then .ok r else .error ⟨t.eventName, existing.typeName, t.typeName⟩
  | none => .ok (r.insert t.eventName t)

/-- An envelope whose name no type has comes back as a raw event. -/
def decodeEvent (r : TypeRegistry) (e : Envelope) : Except Json.Error Event :=
  match r.find? e.eventName with
  | some t => (t.decode e.payload).map .typed
  | none => .ok (.raw (.ofEnvelope e))

def decode (r : TypeRegistry) (e : Envelope) : Except Json.Error Decoded :=
  (r.decodeEvent e).map fun event => ⟨event, e.trace, e.timestamp⟩

end TypeRegistry
end EventDispatch
