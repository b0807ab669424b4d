import EventDispatch.TypeRegistry

namespace EventDispatch

theorem EventType.type_of_decode {t : EventType} {body : RawJson} {e : TypedEvent}
    (decodes : t.decode body = .ok e) : e.type = t := by
  unfold EventType.decode at decodes
  simp only at decodes
  split at decodes
  · cases decodes
    rfl
  · cases decodes

namespace TypeRegistry

variable {types : TypeRegistry} {envelope : Envelope} {t : EventType} {e : TypedEvent}

theorem decode_unlisted (unlisted : types.find? envelope.eventName = none) :
    types.decode envelope =
      .ok ⟨.raw (.ofEnvelope envelope), envelope.trace, envelope.timestamp⟩ := by
  rw [decode, decodeEvent, unlisted]
  rfl

theorem decode_listed (listed : types.find? envelope.eventName = some t)
    (decodes : t.decode envelope.payload = .ok e) :
    types.decode envelope = .ok ⟨.typed e, envelope.trace, envelope.timestamp⟩ := by
  simp only [decode, decodeEvent, listed, decodes]
  rfl

theorem decode_fails {error : Json.Error} (listed : types.find? envelope.eventName = some t)
    (fails : t.decode envelope.payload = .error error) : types.decode envelope = .error error := by
  simp only [decode, decodeEvent, listed, fails]
  rfl

theorem trace_of_decode {decoded : Decoded} (decodes : types.decode envelope = .ok decoded) :
    decoded.trace = envelope.trace := by
  unfold decode at decodes
  cases given : types.decodeEvent envelope with
  | error e =>
    rw [given] at decodes
    cases decodes
  | ok event =>
    rw [given] at decodes
    cases decodes
    rfl

end TypeRegistry
end EventDispatch
