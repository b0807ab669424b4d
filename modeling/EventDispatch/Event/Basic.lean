import EventDispatch.Event.Field
import EventDispatch.Json.Error
import EventDispatch.Text.Quoted

namespace EventDispatch

/-- Where among the fields the moment of the event stands. -/
inductive Stamp : List Field → Type where
  | here {name : String} {fs : List Field} : Stamp (⟨name, .timestamp⟩ :: fs)
  | later {f : Field} {fs : List Field} (s : Stamp fs) : Stamp (f :: fs)
deriving DecidableEq

def Stamp.value : {fs : List Field} → Stamp fs → Values fs → Timestamp
  | _, .here, (t, _) => t
  | _, .later s, (_, vs) => s.value vs

structure EventType where
  typeName : String
  eventName : String
  fields : List Field
  stamp : Stamp fields
deriving DecidableEq

/-- The text of one JSON value, without blanks around it. -/
structure RawJson where
  text : String
deriving DecidableEq

structure TypedEvent where
  type : EventType
  values : Values type.fields
deriving DecidableEq

structure RawEvent where
  name : String
  payload : RawJson
  timestamp : Timestamp
  trace : Option String
deriving DecidableEq

structure ForeignEvent where
  name : String
  occurredAt : Timestamp
  /-- The body, or why there is none. -/
  body : RawJson ⊕ String
deriving DecidableEq

/-- A raw event holds the body of an event whose type is not known, as it was received; a foreign one
comes from the application with whatever body it has. -/
inductive Event where
  | typed (e : TypedEvent)
  | raw (e : RawEvent)
  | foreign (e : ForeignEvent)
deriving DecidableEq

namespace TypedEvent

def body (e : TypedEvent) : RawJson := ⟨Values.write e.type.fields e.values⟩

def occurredAt (e : TypedEvent) : Timestamp := e.type.stamp.value e.values

end TypedEvent

namespace EventType

def decode (t : EventType) (body : RawJson) : Except Json.Error TypedEvent :=
  let bytes := Text.utf8 body.text
  match (Json.document bytes).bind (Values.read? t.fields) with
  | some values => .ok ⟨t, values⟩
  | none => .error (.ofDocument bytes)

end EventType

namespace Event

def name : Event → String
  | .typed e => e.type.eventName
  | .raw e => e.name
  | .foreign e => e.name

def occurredAt : Event → Timestamp
  | .typed e => e.occurredAt
  | .raw e => e.timestamp
  | .foreign e => e.occurredAt

def encodeBody : Event → Except Json.Error RawJson
  | .typed e => .ok e.body
  | .raw e => .ok e.payload
  | .foreign e =>
    match e.body with
    | .inl body => .ok body
    | .inr reason => .error (.unencodable reason)

def kind : Event → String
  | .typed e => e.type.typeName
  | .raw _ => "RawEvent"
  | .foreign _ => "other"

def describe (e : Event) : String :=
  "Event \x7b name: " ++ Text.quoted e.name ++ ", occurred_at: " ++ e.occurredAt.toText ++ " \x7d"

end Event
end EventDispatch
