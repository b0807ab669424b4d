import EventDispatch.Proofs.Json.Objects

namespace EventDispatch.Json

variable {fuel : Nat} {bs v : Bytes} {ms : List (String × Bytes)} {vs : List Bytes}

theorem isValue_of_membersFrom (read : membersFrom fuel bs = some ms) : ∀ m ∈ ms, isValue m.2 := by
  induction fuel generalizing bs ms with
  | zero => cases read
  | succ fuel ih =>
    simp only [membersFrom, Option.bind_eq_bind, Option.bind_eq_some_iff] at read
    obtain ⟨⟨key, rest⟩, -, name, -, colon, -, ⟨v, rest⟩, scanned, last⟩ := read
    have head := isValue_of_scan scanned
    simp only at last
    split at last
    · cases last
    · split at last
      · obtain ⟨more, read, rfl⟩ := Option.map_eq_some_iff.1 last
        intro m hm
        rcases List.mem_cons.1 hm with rfl | later
        · exact head
        · exact ih read m later
      · split at last
        · cases last
          simpa using head
        · cases last

theorem isValue_of_itemsFrom (read : itemsFrom fuel bs = some vs) : ∀ v ∈ vs, isValue v := by
  induction fuel generalizing bs vs with
  | zero => cases read
  | succ fuel ih =>
    simp only [itemsFrom, Option.bind_eq_bind, Option.bind_eq_some_iff] at read
    obtain ⟨⟨v, rest⟩, scanned, last⟩ := read
    have head := isValue_of_scan scanned
    simp only at last
    split at last
    · cases last
    · split at last
      · obtain ⟨more, read, rfl⟩ := Option.map_eq_some_iff.1 last
        intro v' hv
        rcases List.mem_cons.1 hv with rfl | later
        · exact head
        · exact ih read v' later
      · split at last
        · cases last
          simpa using head
        · cases last

theorem isValue_of_members? (read : members? bs = some ms) : ∀ m ∈ ms, isValue m.2 := by
  obtain ⟨rest, -, read₁⟩ := Option.bind_eq_some_iff.1 read
  split at read₁
  · cases read₁
    simp
  · exact isValue_of_membersFrom read₁

theorem isValue_of_items? (read : items? bs = some vs) : ∀ v ∈ vs, isValue v := by
  obtain ⟨rest, -, read₁⟩ := Option.bind_eq_some_iff.1 read
  split at read₁
  · cases read₁
    simp
  · exact isValue_of_itemsFrom read₁

theorem optional?_quote (s : String) :
    optional? string? (Text.utf8 (quote s)) = some (some s) := by
  have text : isNull (Text.utf8 (quote s)) = false := by
    rw [utf8_quote]
    rfl
  rw [optional?, text, string?_quote]
  rfl

theorem optional?_eq_some_iff {α : Type} {read : Bytes → Option α} {a : Option α} :
    optional? read v = some a ↔
      v = Text.utf8 "null" ∧ a = none ∨ v ≠ Text.utf8 "null" ∧ ∃ b, read v = some b ∧ some b = a := by
  rw [optional?, isNull]
  by_cases null : v = Text.utf8 "null"
  · simp [null, eq_comm]
  · simp [null]

def valuesOf (ms : List (String × Bytes)) (names : List String) : List Bytes :=
  (ms.filter fun m => names.contains m.1).map (·.2)

namespace Record

variable {r : Record} {size index : Nat} {names : List String}

/-- A field is given by the one member that has one of its names. -/
theorem field?_named : (named ms).field? index names =
    match valuesOf ms names with
    | [] => some none
    | [v] => some (some v)
    | _ => none := by
  rw [field?, valuesOf]
  generalize ms.filter (fun m => names.contains m.1) = found
  rcases found with - | ⟨m, - | ⟨m', rest⟩⟩ <;> rfl

section Reading

variable {α : Type} {read : Bytes → Option α} {a default : α}

theorem required?_named_eq_some_iff :
    (named ms).required? index names read = some a ↔
      ∃ v, valuesOf ms names = [v] ∧ read v = some a := by
  rw [required?, field?_named]
  rcases valuesOf ms names with - | ⟨v, - | ⟨v', rest⟩⟩ <;> simp

theorem withDefault?_named_eq_some_iff :
    (named ms).withDefault? index names read default = some a ↔
      valuesOf ms names = [] ∧ default = a ∨ ∃ v, valuesOf ms names = [v] ∧ read v = some a := by
  rw [withDefault?, field?_named]
  rcases valuesOf ms names with - | ⟨v, - | ⟨v', rest⟩⟩ <;> simp

end Reading

theorem ofValue?_object (hv : ∀ m ∈ ms, isValue m.2) :
    ofValue? size (object ms) = some (.named ms) := by
  rw [ofValue?, members?_object hv]

/-- The field of a record read from a document is a value. -/
theorem isValue_of_field? (read : ofValue? size bs = some r)
    (given : r.field? index names = some (some v)) : isValue v := by
  unfold ofValue? at read
  split at read
  · next ms found =>
    cases read
    simp only [field?] at given
    split at given
    · cases given
    · next m alone =>
      cases given
      have listed : m ∈ ms.filter fun m => names.contains m.1 :=
        alone ▸ List.mem_singleton_self m
      exact isValue_of_members? found m (List.mem_filter.1 listed).1
    · cases given
  · obtain ⟨vs, found, rfl⟩ := Option.map_eq_some_iff.1 read
    obtain ⟨found, -⟩ := Option.filter_eq_some_iff.1 found
    have place : vs[index]? = some v := Option.some.inj given
    exact isValue_of_items? found v (List.mem_of_getElem? place)

end Record
end EventDispatch.Json
