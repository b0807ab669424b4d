import EventDispatch.Proofs.Course
import EventDispatch.Proofs.Keyed
import EventDispatch.Proofs.Wire.Decoding

namespace EventDispatch

namespace TypeRegistry

def attempt (r : TypeRegistry) (t : EventType) : TypeRegistry :=
  match r.register t with
  | .ok next => next
  | .error _ => r

def enrolled (calls : List EventType) : TypeRegistry := calls.foldl attempt Keyed.empty

variable {r : TypeRegistry} {s t : EventType} {calls : List EventType} {e : Envelope}

theorem register_free (free : r.find? t.eventName = none) :
    r.register t = .ok (r.insert t.eventName t) := by
  rw [register, free]

theorem register_bound (bound : r.find? t.eventName = some t) : r.register t = .ok r := by
  simp only [register, bound, if_pos]

theorem register_taken (taken : r.find? t.eventName = some s) (other : s ≠ t) :
    r.register t = .error ⟨t.eventName, s.typeName, t.typeName⟩ := by
  simp only [register, taken, if_neg other]

/-- A name is free, or bound to the type that asks for it, or taken by another. -/
theorem free_or_bound_or_taken (r : TypeRegistry) (t : EventType) :
    r.find? t.eventName = none ∨ r.find? t.eventName = some t ∨
      ∃ s, r.find? t.eventName = some s ∧ s ≠ t := by
  cases found : r.find? t.eventName with
  | none => exact .inl rfl
  | some s =>
    by_cases same : s = t
    · exact .inr (.inl (congrArg some same))
    · exact .inr (.inr ⟨s, rfl, same⟩)

theorem register_ok_iff :
    (∃ next, r.register t = .ok next) ↔
      r.find? t.eventName = none ∨ r.find? t.eventName = some t := by
  rcases free_or_bound_or_taken r t with free | bound | ⟨s, taken, other⟩
  · exact iff_of_true ⟨_, register_free free⟩ (.inl free)
  · exact iff_of_true ⟨_, register_bound bound⟩ (.inr bound)
  · rw [register_taken taken other, taken]
    simp [other]

theorem register_error_iff {c : TypeConflict} :
    r.register t = .error c ↔ ∃ s, r.find? t.eventName = some s ∧ s ≠ t ∧
      c = ⟨t.eventName, s.typeName, t.typeName⟩ := by
  constructor
  · intro fails
    rcases free_or_bound_or_taken r t with free | bound | ⟨s, taken, other⟩
    · rw [register_free free] at fails
      cases fails
    · rw [register_bound bound] at fails
      cases fails
    · rw [register_taken taken other] at fails
      cases fails
      exact ⟨s, taken, other, rfl⟩
  · rintro ⟨s, taken, other, rfl⟩
    exact register_taken taken other

theorem attempt_free (free : r.find? t.eventName = none) :
    r.attempt t = r.insert t.eventName t := by
  simp only [attempt, register_free free]

theorem attempt_unfree (unfree : r.find? t.eventName ≠ none) : r.attempt t = r := by
  rcases free_or_bound_or_taken r t with free | bound | ⟨s, taken, other⟩
  · exact absurd free unfree
  · simp only [attempt, register_bound bound]
  · simp only [attempt, register_taken taken other]

theorem find?_attempt (r : TypeRegistry) (t : EventType) (name : String) :
    (r.attempt t).find? name = (r.find? name).or (if t.eventName = name then some t else none) := by
  by_cases free : r.find? t.eventName = none
  · rw [attempt_free free, Keyed.find?_insert]
    split
    · next same => rw [← same, free, Option.none_or]
    · rw [Option.or_none]
  · rw [attempt_unfree free]
    split
    · next same => rw [← same, Option.or_of_isSome (Option.isSome_iff_ne_none.2 free)]
    · rw [Option.or_none]

theorem enrolled_concat (calls : List EventType) (t : EventType) :
    enrolled (calls ++ [t]) = (enrolled calls).attempt t := by
  rw [enrolled, List.foldl_append]
  rfl

/-- A name stands for the first of the types that were registered under it. -/
theorem find?_enrolled (calls : List EventType) (name : String) :
    (enrolled calls).find? name = calls.find? (·.eventName == name) := by
  induction calls using List.reverseRecOn with
  | nil => rfl
  | append_singleton calls t ih =>
    rw [enrolled_concat, find?_attempt, ih, List.find?_append, List.find?_singleton]
    simp only [beq_iff_eq]

theorem find?_enrolled_append {name : String} (later : List EventType)
    (found : (enrolled calls).find? name = some t) :
    (enrolled (calls ++ later)).find? name = some t := by
  rw [find?_enrolled] at found ⊢
  rw [List.find?_append, found, Option.some_or]

theorem isSome_find?_enrolled {name : String} :
    ((enrolled calls).find? name).isSome ↔ ∃ t ∈ calls, t.eventName = name := by
  simp only [find?_enrolled, List.find?_isSome, beq_iff_eq]

/-- Under a bound name an envelope holds an event of that type, or a body that is none. -/
theorem decode_bound (bound : r.find? e.eventName = some t) :
    (∃ v, v.type = t ∧ t.decode e.payload = .ok v ∧
        r.decode e = .ok ⟨.typed v, e.trace, e.timestamp⟩) ∨
      ∃ error, t.decode e.payload = .error error ∧ r.decode e = .error error := by
  cases decodes : t.decode e.payload with
  | ok v => exact .inl ⟨v, EventType.type_of_decode decodes, rfl, decode_listed bound decodes⟩
  | error error => exact .inr ⟨error, rfl, decode_fails bound decodes⟩

/-- An envelope comes back as it is exactly when its name is free. -/
theorem decode_raw_iff :
    r.decode e = .ok ⟨.raw ⟨e.eventName, e.payload, e.timestamp, e.trace⟩, e.trace, e.timestamp⟩ ↔
      r.find? e.eventName = none := by
  refine ⟨fun raw => ?_, decode_unlisted⟩
  cases found : r.find? e.eventName with
  | none => rfl
  | some t =>
    rcases decode_bound found with ⟨v, -, -, typed⟩ | ⟨error, -, fails⟩
    · rw [typed] at raw
      cases raw
    · rw [fails] at raw
      cases raw

/-- What the calls so far have made of a registry. -/
structure FirstKept (calls : List EventType) (r : TypeRegistry) : Prop where
  bound : ∀ name, r.find? name = calls.find? (·.eventName == name)
  forever : ∀ later name t, r.find? name = some t → (enrolled (calls ++ later)).find? name = some t
  accepts : ∀ t, (∃ next, r.register t = .ok next) ↔
    r.find? t.eventName = none ∨ r.find? t.eventName = some t
  conflicts : ∀ t c, r.register t = .error c ↔ ∃ s, r.find? t.eventName = some s ∧ s ≠ t ∧
    c = ⟨t.eventName, s.typeName, t.typeName⟩
  /-- Only a call for a free name changes anything. -/
  unchanged : ∀ t, r.find? t.eventName ≠ none → enrolled (calls ++ [t]) = r
  sorted : r.keys.Pairwise (· < ·)
  listed : ∀ name, name ∈ r.keys ↔ ∃ t ∈ calls, t.eventName = name
  contained : ∀ name, r.contains name ↔ ∃ t ∈ calls, t.eventName = name
  rebuilt : ∀ (e : Envelope) t, r.find? e.eventName = some t →
    (∃ v, v.type = t ∧ t.decode e.payload = .ok v ∧
        r.decode e = .ok ⟨.typed v, e.trace, e.timestamp⟩) ∨
      ∃ error, t.decode e.payload = .error error ∧ r.decode e = .error error
  raw : ∀ e : Envelope,
    r.decode e = .ok ⟨.raw ⟨e.eventName, e.payload, e.timestamp, e.trace⟩, e.trace, e.timestamp⟩ ↔
      r.find? e.eventName = none

/-- Whatever types are registered, in whatever order and under whatever names. -/
theorem first_registered_kept (calls : List EventType) : FirstKept calls (enrolled calls) where
  bound := find?_enrolled calls
  forever later _ _ := find?_enrolled_append later
  accepts _ := register_ok_iff
  conflicts _ _ := register_error_iff
  unchanged t unfree := (enrolled_concat calls t).trans (attempt_unfree unfree)
  sorted := Keyed.keys_pairwise _
  listed _ := Keyed.mem_keys_iff.trans isSome_find?_enrolled
  contained _ := isSome_find?_enrolled
  rebuilt _ _ := decode_bound
  raw _ := decode_raw_iff

end TypeRegistry

variable {h : Host} {α : Type}

def Occurrence.registered? : Occurrence h → Option EventType
  | .performed (.host (.register t)) _ => some t
  | _ => none

theorem World.answerHost_types (w : World h) (t : Thread) (o : HostOp h) :
    (w.answerHost t o).2.types =
      (Occurrence.performed (.host o) (w.answerHost t o).1).registered?.elim w.types w.types.attempt := by
  cases o with
  | register type =>
    simp only [answerHost, Occurrence.registered?, Option.elim_some, TypeRegistry.attempt]
    cases w.types.register type <;> rfl
  | _ => rfl

theorem World.answer_types (w : World h) (t : Thread) (o : Op h) :
    (w.answer t o).2.types =
      (Occurrence.performed o (w.answer t o).1).registered?.elim w.types w.types.attempt := by
  cases o with
  | host o => exact w.answerHost_types t o
  | publish ctx m =>
    obtain ⟨bus, buffer, trail, after⟩ := w.publish_concerns t ctx m
    exact congrArg (·.types) after
  | _ => rfl

namespace Machine

theorem Turned.types {app : Application h} {m m' : Machine h α} {a : Actor} {o : Occurrence h}
    (turned : Turned app m a m' o) :
    m'.world.types = o.registered?.elim m.world.types m.world.types.attempt := by
  cases turned with
  | performed before after world ready =>
    rw [world]
    exact World.answer_types _ _ _
  | called before after world => exact congrArg (·.types) world
  | took actor before take after world => exact congrArg (·.types) world
  | ended before finished after world =>
    obtain ⟨pool, trail, returned, after⟩ := ended_concerns world
    exact congrArg (·.types) after

end Machine

/-- A dispatcher's registry is that of the calls of all threads, in the order in which they took turns. -/
theorem Course.types_enrolled {app : Application h} {s : Course h α} (reached : s.Reachable app) :
    s.world.types = .enrolled (s.history.reverse.filterMap (·.2.registered?)) := by
  refine Reachable.induct
    (I := fun s => s.world.types = .enrolled (s.history.reverse.filterMap (·.2.registered?)))
    (fun c publisher host scripts => rfl) (fun s move ih => ?_) reached
  cases move with
  | refit capacity closed isSealed => exact ih
  | turn a =>
    rcases move_turn (a := a) with same | ⟨m, o, moved, turned, -⟩
    · rw [same]
      exact ih
    · have types : m.world.types = o.registered?.elim s.world.types s.world.types.attempt :=
        turned.types
      rw [moved]
      show m.world.types = _
      rw [types, List.reverse_cons, List.filterMap_append, ih]
      cases registered : o.registered? with
      | none => simp [registered]
      | some type => simp [registered, TypeRegistry.enrolled_concat]

end EventDispatch
