import EventDispatch.Context
import EventDispatch.Text.Utf8

namespace EventDispatch

structure Message where
  id : String
  topic : String
  key : String
  eventName : String
  payload : Bytes
  headers : List (String × String)
deriving DecidableEq

namespace Message

def withHeader (m : Message) (key value : String) : Message :=
  { m with headers := m.headers ++ [(key, value)] }

def header? (m : Message) (key : String) : Option String :=
  (m.headers.find? (·.1 == key)).map (·.2)

def payloadText? (m : Message) : Option String := Text.ofUtf8? m.payload

end Message

inductive PublishError where
  | connectionFailed (reason : String)
  | serializationFailed (reason : String)
  | rejected (reason : String)
  | timeout
  | other (reason : String)
deriving DecidableEq

def PublishError.message : PublishError → String
  | .connectionFailed reason => "connection failed: " ++ reason
  | .serializationFailed reason => "serialization failed: " ++ reason
  | .rejected reason => "message rejected: " ++ reason
  | .timeout => "publish timeout"
  | .other reason => "publish error: " ++ reason

/-- One line for a message that is only written down. -/
def Message.line (m : Message) (trace : Option String) : String :=
  "[PUBLISH] " ++ m.topic ++ " " ++ m.eventName ++ " key=" ++ m.key ++
    (match trace with
      | some id => " trace_id=" ++ id
      | none => "") ++
    " " ++ Text.lenient m.payload

end EventDispatch
