import EventDispatch.Envelope
import EventDispatch.Proofs.Json.Records

namespace EventDispatch.Envelope

open Json

variable {ms ms' : List (String × Bytes)} {object object' text text' : Bytes} {e : Envelope}

/-- The trace that the values of its field stand for, of which there is one at most. -/
inductive TraceGiven : List Bytes → Option String → Prop where
  | absent : TraceGiven [] none
  | null : TraceGiven [Text.utf8 "null"] none
  | text {v : Bytes} {id : String} (read : string? v = some id) :
      TraceGiven [v] (Text.filled (some id))

theorem TraceGiven.length_le {vs : List Bytes} {trace : Option String} (given : TraceGiven vs trace) :
    vs.length ≤ 1 := by
  cases given <;> simp

/-- The members say this of an envelope. The payload is the text of its value. -/
structure Given (ms : List (String × Bytes)) (e : Envelope) : Prop where
  eventName : ∃ v, valuesOf ms ["event_name"] = [v] ∧ string? v = some e.eventName
  payload : valuesOf ms ["payload"] = [Text.utf8 e.payload.text]
  timestamp : ∃ v s, valuesOf ms ["timestamp"] = [v] ∧ string? v = some s ∧
    Timestamp.ofText? s = some e.timestamp
  trace : TraceGiven (valuesOf ms ["trace_id"]) e.trace

def requiredNames : List String := ["event_name", "payload", "timestamp"]

def fieldNames : List String := requiredNames ++ ["trace_id"]

/-- What can be wrong with the members. -/
inductive Faulty (ms : List (String × Bytes)) : Prop where
  | repeated {name : String} (field : name ∈ fieldNames) (twice : 2 ≤ (valuesOf ms [name]).length)
  | missing {name : String} (required : name ∈ requiredNames) (none : valuesOf ms [name] = [])
  | nameNotText {v : Bytes} (given : valuesOf ms ["event_name"] = [v]) (other : string? v = none)
  | payloadNotText {v : Bytes} (given : valuesOf ms ["payload"] = [v])
      (other : Text.ofUtf8? v = none)
  | notTimestamp {v : Bytes} (given : valuesOf ms ["timestamp"] = [v])
      (other : (string? v).bind Timestamp.ofText? = none)
  | traceNotText {v : Bytes} (given : valuesOf ms ["trace_id"] = [v]) (some : v ≠ Text.utf8 "null")
      (other : string? v = none)

/-- The same members have the names of the fields, in whatever order. -/
def SameFields (ms ms' : List (String × Bytes)) : Prop :=
  (ms.filter fun m => fieldNames.contains m.1).Perm (ms'.filter fun m => fieldNames.contains m.1)

theorem ofUtf8?_eq_some_iff {v : Bytes} {s : String} :
    Text.ofUtf8? v = some s ↔ v = Text.utf8 s := by
  constructor
  · exact fun read => (Text.utf8_of_ofUtf8? read).symm
  · rintro rfl
    exact Text.ofUtf8?_utf8 s

theorem not_null_of_string? {v : Bytes} {s : String} (read : string? v = some s) :
    v ≠ Text.utf8 "null" := by
  rintro rfl
  cases read

/-- How the reader takes the field of the trace. -/
theorem traceGiven_iff {trace : Option String} :
    TraceGiven (valuesOf ms ["trace_id"]) trace ↔ ∃ read,
      (Record.named ms).withDefault? 3 ["trace_id"] (optional? string?) none = some read ∧
        Text.filled read = trace := by
  simp only [Record.withDefault?_named_eq_some_iff, optional?_eq_some_iff]
  generalize valuesOf ms ["trace_id"] = given
  constructor
  · intro traced
    cases traced with
    | absent => exact ⟨none, .inl ⟨rfl, rfl⟩, rfl⟩
    | null => exact ⟨none, .inr ⟨_, rfl, .inl ⟨rfl, rfl⟩⟩, rfl⟩
    | text read =>
      exact ⟨some _, .inr ⟨_, rfl, .inr ⟨not_null_of_string? read, _, read, rfl⟩⟩, rfl⟩
  · rintro ⟨_, ⟨rfl, rfl⟩ | ⟨v, rfl, ⟨rfl, rfl⟩ | ⟨-, id, read, rfl⟩⟩, rfl⟩
    · exact .absent
    · exact .null
    · exact .text read

theorem readRecord?_named_eq_some_iff : readRecord? (.named ms) = some e ↔ Given ms e := by
  obtain ⟨name, ⟨payload⟩, timestamp, trace⟩ := e
  simp only [readRecord?, Option.bind_eq_bind, Option.bind_eq_some_iff,
    Record.required?_named_eq_some_iff, ofUtf8?_eq_some_iff]
  constructor
  · rintro ⟨_, eventName, _, ⟨_, body, rfl⟩, _, ⟨v, moment, s, text, read⟩, id, traced, made⟩
    cases made
    exact ⟨eventName, body, ⟨v, s, moment, text, read⟩, traceGiven_iff.2 ⟨id, traced, rfl⟩⟩
  · rintro ⟨eventName, body, ⟨v, s, moment, text, read⟩, traced⟩
    obtain ⟨id, field, rfl⟩ := traceGiven_iff.1 traced
    exact ⟨_, eventName, _, ⟨_, body, rfl⟩, _, ⟨v, moment, s, text, read⟩, id, field, rfl⟩

/-- Whatever the members are, they give an envelope, or something is wrong with them. -/
theorem given_or_faulty (ms : List (String × Bytes)) : (∃ e, Given ms e) ∨ Faulty ms := by
  by_contra neither
  rw [not_or] at neither
  obtain ⟨none, sound⟩ := neither
  have single (name : String) (required : name ∈ requiredNames) :
      ∃ v, valuesOf ms [name] = [v] := by
    rcases found : valuesOf ms [name] with - | ⟨v, - | ⟨v', rest⟩⟩
    · exact absurd (.missing required found) sound
    · exact ⟨v, rfl⟩
    · exact absurd (.repeated (List.mem_append_left _ required) (by simp [found])) sound
  obtain ⟨n, eventName⟩ := single "event_name" (by decide)
  obtain ⟨p, body⟩ := single "payload" (by decide)
  obtain ⟨t, moment⟩ := single "timestamp" (by decide)
  -- Each value is there once; what can still be wrong is that one of them is not of its kind.
  cases readName : string? n with
  | none => exact sound (.nameNotText eventName readName)
  | some name =>
  cases readBody : Text.ofUtf8? p with
  | none => exact sound (.payloadNotText body readBody)
  | some payload =>
  cases readMoment : (string? t).bind Timestamp.ofText? with
  | none => exact sound (.notTimestamp moment readMoment)
  | some timestamp =>
  obtain ⟨s, text, accepted⟩ := Option.bind_eq_some_iff.1 readMoment
  have traced : ∃ trace, TraceGiven (valuesOf ms ["trace_id"]) trace := by
    rcases found : valuesOf ms ["trace_id"] with - | ⟨v, - | ⟨v', rest⟩⟩
    · exact ⟨_, .absent⟩
    · by_cases null : v = Text.utf8 "null"
      · exact ⟨_, null ▸ TraceGiven.null⟩
      · cases readTrace : string? v with
        | none => exact absurd (.traceNotText found null readTrace) sound
        | some id => exact ⟨_, .text readTrace⟩
    · have field : "trace_id" ∈ fieldNames := by decide
      exact absurd (.repeated field (by simp [found])) sound
  obtain ⟨trace, traced⟩ := traced
  exact none ⟨⟨name, ⟨payload⟩, timestamp, trace⟩, ⟨n, eventName, readName⟩,
    ofUtf8?_eq_some_iff.1 readBody ▸ body, ⟨t, s, moment, text, accepted⟩, traced⟩

theorem Given.exists_value (given : Given ms e) {name : String} (required : name ∈ requiredNames) :
    ∃ v, valuesOf ms [name] = [v] := by
  obtain ⟨n, eventName, -⟩ := given.eventName
  obtain ⟨t, -, moment, -⟩ := given.timestamp
  simp only [requiredNames, List.mem_cons, List.not_mem_nil, or_false] at required
  rcases required with rfl | rfl | rfl
  · exact ⟨n, eventName⟩
  · exact ⟨_, given.payload⟩
  · exact ⟨t, moment⟩

theorem Given.length_le (given : Given ms e) {name : String} (field : name ∈ fieldNames) :
    (valuesOf ms [name]).length ≤ 1 := by
  rcases List.mem_append.1 field with required | trace
  · obtain ⟨v, one⟩ := given.exists_value required
    simp [one]
  · rw [List.mem_singleton.1 trace]
    exact given.trace.length_le

/-- Nothing is wrong with members that give an envelope. -/
theorem Given.not_faulty (given : Given ms e) : ¬Faulty ms := by
  intro faulty
  cases faulty with
  | repeated field twice => exact absurd (given.length_le field) (Nat.not_le_of_lt twice)
  | missing required none =>
    obtain ⟨v, one⟩ := given.exists_value required
    rw [none] at one
    cases one
  | nameNotText found other =>
    obtain ⟨v, one, read⟩ := given.eventName
    rw [found] at one
    cases one
    rw [other] at read
    cases read
  | payloadNotText found other =>
    have one := given.payload
    rw [found] at one
    cases one
    rw [Text.ofUtf8?_utf8] at other
    cases other
  | notTimestamp found other =>
    obtain ⟨v, s, one, read, accepted⟩ := given.timestamp
    rw [found] at one
    cases one
    rw [read, Option.bind_some, accepted] at other
    cases other
  | traceNotText found some other =>
    have traced := given.trace
    rw [found] at traced
    generalize e.trace = trace at traced
    cases traced with
    | null => exact some rfl
    | text read =>
      rw [other] at read
      cases read

namespace SameFields

theorem symm (same : SameFields ms ms') : SameFields ms' ms := List.Perm.symm same

theorem valuesOf_perm (same : SameFields ms ms') {name : String} (field : name ∈ fieldNames) :
    (valuesOf ms [name]).Perm (valuesOf ms' [name]) := by
  have kept (ms : List (String × Bytes)) : valuesOf ms [name] =
      ((ms.filter fun m => fieldNames.contains m.1).filter fun m => [name].contains m.1).map (·.2) := by
    rw [valuesOf, List.filter_filter]
    congr 2
    funext m
    by_cases named : m.1 = name
    · simp [named, field]
    · simp [named]
  rw [kept, kept]
  exact (same.filter _).map _

theorem valuesOf_eq (same : SameFields ms ms') {name : String} (field : name ∈ fieldNames)
    (short : (valuesOf ms [name]).length ≤ 1) : valuesOf ms' [name] = valuesOf ms [name] := by
  have perm := same.symm.valuesOf_perm field
  rcases found : valuesOf ms [name] with - | ⟨v, - | ⟨v', rest⟩⟩
  · exact List.perm_nil.1 (found ▸ perm)
  · exact List.perm_singleton.1 (found ▸ perm)
  · simp [found] at short

theorem given (same : SameFields ms ms') (given : Given ms e) : Given ms' e := by
  have equal {name : String} (field : name ∈ fieldNames) : valuesOf ms' [name] = valuesOf ms [name] :=
    same.valuesOf_eq field (given.length_le field)
  constructor
  case eventName =>
    rw [equal (by decide)]
    exact given.eventName
  case payload =>
    rw [equal (by decide)]
    exact given.payload
  case timestamp =>
    rw [equal (by decide)]
    exact given.timestamp
  case trace =>
    rw [equal (by decide)]
    exact given.trace

end SameFields

theorem ofBytes_spelled (spelled : SpellsObject ms object) (padded : Padded object text) :
    ofBytes text = match readRecord? (.named ms) with
      | some e => .ok e
      | none => .error (.ofDocument text) := by
  have whole : document text = some object := document_padded spelled.isValue padded
  have record : Record.ofValue? 4 object = some (.named ms) := by
    rw [Record.ofValue?, spelled.members?]
  cases read : readRecord? (.named ms) with
  | some e => simp only [ofBytes, whole, Option.bind_some, record, read]
  | none => simp only [ofBytes, whole, Option.bind_some, record, read]

theorem ofBytes_spelled_eq_ok_iff (spelled : SpellsObject ms object) (padded : Padded object text) :
    ofBytes text = .ok e ↔ Given ms e := by
  rw [ofBytes_spelled spelled padded, ← readRecord?_named_eq_some_iff]
  cases readRecord? (.named ms) <;> simp

theorem ofBytes_spelled_eq_error_iff (spelled : SpellsObject ms object)
    (padded : Padded object text) : ofBytes text = .error (.ofDocument text) ↔ Faulty ms := by
  constructor
  · intro failed
    rcases given_or_faulty ms with ⟨e, given⟩ | faulty
    · rw [(ofBytes_spelled_eq_ok_iff spelled padded).2 given] at failed
      cases failed
    · exact faulty
  · intro faulty
    rw [ofBytes_spelled spelled padded]
    split
    · next e read => exact absurd faulty (readRecord?_named_eq_some_iff.1 read).not_faulty
    · rfl

/-- An object whose members give an envelope is read as this envelope, whatever their order, their
layout and the members beside them, and objects with the same fields are read alike. An object in which
a field is repeated, missing or of the wrong kind is not read. -/
theorem ofBytes_any_layout (spelled : SpellsObject ms object) (padded : Padded object text) :
    (∀ e, ofBytes text = .ok e ↔ Given ms e) ∧
      (ofBytes text = .error (.ofDocument text) ↔ Faulty ms) ∧
      ∀ ms' object' text', SpellsObject ms' object' → Padded object' text' → SameFields ms ms' →
        ∀ e, ofBytes text' = .ok e ↔ ofBytes text = .ok e := by
  refine ⟨fun e => ofBytes_spelled_eq_ok_iff spelled padded,
    ofBytes_spelled_eq_error_iff spelled padded, fun ms' object' text' spelled' padded' same e => ?_⟩
  rw [ofBytes_spelled_eq_ok_iff spelled padded, ofBytes_spelled_eq_ok_iff spelled' padded']
  exact ⟨same.symm.given, same.given⟩

def scatteredMembers : List (String × Bytes) :=
  [("x", Text.utf8 "[1e400, \x7b\"event_name\":null\x7d]"), ("trace_id", Text.utf8 "null"),
    ("timestamp", Text.utf8 "\"2024-01-01T00:30:07.5+02:00\""),
    ("payload", Text.utf8 "\x7b \"a\": [ \"\\ud800\" ]\x7d"), ("event_name", Text.utf8 "\"a\\u0062\"")]

def scatteredObject : Bytes :=
  Text.utf8 ("\x7b\"x\" : [1e400, \x7b\"event_name\":null\x7d],\t\"trace_id\":null ,\n\"timestamp\":" ++
    "\"2024-01-01T00:30:07.5+02:00\" ,\r\"pay\\u006coad\":\x7b \"a\": [ \"\\ud800\" ]\x7d \n, " ++
    "\"event_name\": \"a\\u0062\" \x7d")

def scattered : Bytes := Text.utf8 "\n " ++ scatteredObject ++ Text.utf8 "\t"

def gathered : Envelope where
  eventName := "ab"
  payload := ⟨"\x7b \"a\": [ \"\\ud800\" ]\x7d"⟩
  timestamp :=
    ⟨⟨2023, 12, 31, by decide⟩, 22, 30, 7, 500000000, by decide, by decide, by decide, by decide⟩
  trace := none

theorem scattered_read : SpellsObject scatteredMembers scatteredObject ∧
    Padded scatteredObject scattered ∧ ofBytes scattered = .ok gathered := by
  have spelled : SpellsObject scatteredMembers scatteredObject :=
    spellsObject_iff.2 ⟨by decide +kernel, by decide +kernel⟩
  have padded : Padded scatteredObject scattered := .intro (by decide +kernel) (by decide +kernel)
  have given : Given scatteredMembers gathered :=
    ⟨⟨Text.utf8 "\"a\\u0062\"", by decide +kernel, by decide +kernel⟩, by decide +kernel,
      ⟨Text.utf8 "\"2024-01-01T00:30:07.5+02:00\"", "2024-01-01T00:30:07.5+02:00", by decide +kernel,
        by decide +kernel, by decide +kernel⟩, .null⟩
  exact ⟨spelled, padded, ((ofBytes_any_layout spelled padded).1 gathered).2 given⟩

end EventDispatch.Envelope
