import EventDispatch.Envelope
import EventDispatch.Proofs.Json.Records
import EventDispatch.Proofs.Time.Written

namespace EventDispatch.Envelope

open Json

variable {e : Envelope} {bytes : Bytes}

def members (e : Envelope) : List (String × Bytes) :=
  [("event_name", Text.utf8 (quote e.eventName)), ("payload", Text.utf8 e.payload.text),
    ("timestamp", Text.utf8 (quote e.timestamp.toText))] ++
  e.trace.toList.map fun id => ("trace_id", Text.utf8 (quote id))

theorem isValue_members (payload : isValue (Text.utf8 e.payload.text)) :
    ∀ m ∈ e.members, isValue m.2 := by
  have trace : ∀ id ∈ e.trace.toList, isValue (Text.utf8 (quote id)) := fun id _ => isValue_quote id
  simp only [members, List.forall_mem_append, List.forall_mem_cons, List.forall_mem_map]
  exact ⟨⟨isValue_quote _, payload, isValue_quote _, by simp⟩, trace⟩

theorem toBytes_eq (e : Envelope) : e.toBytes = object e.members := by
  have opening : Text.utf8 "\x7b\"event_name\":" =
      byte '{' :: (Text.utf8 (quote "event_name") ++ [byte ':']) := by decide +kernel
  have second : Text.utf8 ",\"payload\":" =
      byte ',' :: (Text.utf8 (quote "payload") ++ [byte ':']) := by decide +kernel
  have third : Text.utf8 ",\"timestamp\":" =
      byte ',' :: (Text.utf8 (quote "timestamp") ++ [byte ':']) := by decide +kernel
  have fourth : Text.utf8 ",\"trace_id\":" =
      byte ',' :: (Text.utf8 (quote "trace_id") ++ [byte ':']) := by decide +kernel
  have closing : Text.utf8 "\x7d" = [byte '}'] := by decide +kernel
  obtain ⟨name, payload, timestamp, trace⟩ := e
  unfold toBytes toText
  cases trace <;>
    simp [members, object, closedBy, member, opening, second, third, fourth, closing]

theorem readRecord?_members (filled : e.trace ≠ some "") :
    readRecord? (.named e.members) = some e := by
  obtain ⟨name, payload, timestamp, trace⟩ := e
  cases trace <;>
    simp [readRecord?, members, Record.required?, Record.withDefault?, Record.field?, string?_quote,
      Text.ofUtf8?_utf8, Timestamp.ofText?_toText, optional?_quote, Text.filled_eq_self filled]

theorem ofBytes_written (payload : isValue (Text.utf8 e.payload.text)) (filled : e.trace ≠ some "") :
    ofBytes e.toBytes = .ok e := by
  have values := isValue_members payload
  have whole : document (object e.members) = some (object e.members) :=
    document_value (isValue_object values)
  rw [toBytes_eq]
  simp [ofBytes, whole, Record.ofValue?_object values, readRecord?_members filled]

/-- What is read from a document can be written. -/
theorem writable_of_ofBytes (read : ofBytes bytes = .ok e) :
    isValue (Text.utf8 e.payload.text) ∧ e.trace ≠ some "" := by
  unfold ofBytes at read
  split at read
  · next e' given =>
    cases read
    obtain ⟨r, found, given₁⟩ := Option.bind_eq_some_iff.1 given
    obtain ⟨value, -, record⟩ := Option.bind_eq_some_iff.1 found
    simp only [readRecord?, Option.bind_eq_bind, Option.bind_eq_some_iff] at given₁
    obtain ⟨name, -, payload, payloadRead, timestamp, -, trace, -, made⟩ := given₁
    cases made
    simp only [Record.required?, Option.bind_eq_bind, Option.bind_eq_some_iff] at payloadRead
    obtain ⟨_, field, v, rfl, text⟩ := payloadRead
    refine ⟨?_, Text.filled_ne_empty trace⟩
    rw [Text.utf8_of_ofUtf8? text]
    exact Record.isValue_of_field? record field
  · cases read

/-- An envelope with any JSON value as its body and a trace that is none or not empty is read back as
it was. So what was read from any bytes has one wire form, which gives it back. -/
theorem ofBytes_toBytes :
    (∀ e : Envelope, isValue (Text.utf8 e.payload.text) → e.trace ≠ some "" →
        ofBytes e.toBytes = .ok e) ∧
      ∀ bytes e, ofBytes bytes = .ok e →
        ofBytes e.toBytes = .ok e ∧ (ofBytes e.toBytes).map toBytes = .ok e.toBytes := by
  refine ⟨fun e => ofBytes_written, fun bytes e read => ?_⟩
  obtain ⟨payload, filled⟩ := writable_of_ofBytes read
  have same := ofBytes_written payload filled
  refine ⟨same, ?_⟩
  rw [same]
  rfl

/-- A name with a quote, a control and characters of several bytes, a body with blanks, escapes and
depth, and a leap second before year 0. -/
def ides : Envelope where
  eventName := "caesar \"⚔️\"\n\x01"
  payload := ⟨"\x7b\"a\" : [ [], -1.50e+3,\t\x7b\"\\ud83d\\u0000\": null\x7d ]\x7d"⟩
  timestamp :=
    ⟨⟨-43, 3, 15, by decide⟩, 23, 59, 60, 123456000, by decide, by decide, by decide, by decide⟩
  trace := some "t-1"

theorem ides_read_back :
    isValue (Text.utf8 ides.payload.text) ∧ ides.trace ≠ some "" ∧
      ofBytes ides.toBytes = .ok ides ∧ (ofBytes ides.toBytes).map toBytes = .ok ides.toBytes := by
  have payload : isValue (Text.utf8 ides.payload.text) := by decide +kernel
  have filled : ides.trace ≠ some "" := by decide
  have read := ofBytes_toBytes.1 ides payload filled
  exact ⟨payload, filled, ofBytes_toBytes.2 _ ides read⟩

end EventDispatch.Envelope
