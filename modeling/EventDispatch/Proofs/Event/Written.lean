import EventDispatch.Event.Catalog
import EventDispatch.Proofs.Json.Numbers
import EventDispatch.Proofs.Json.Records
import EventDispatch.Proofs.Time.Written

namespace EventDispatch

open Json

namespace FieldKind

theorem utf8_integers (ns : List Int64) :
    Text.utf8 (FieldKind.integers.write ns) = array (ns.map fun n => integer n.toInt) := by
  have opening : Text.utf8 "[" = [byte '['] := by decide +kernel
  have closing : Text.utf8 "]" = [byte ']'] := by decide +kernel
  rw [write, Text.utf8_append, Text.utf8_append, opening, closing, List.append_assoc, utf8_intercalate,
    List.map_map]
  simp only [Function.comp_def, utf8_reprInt]
  rfl

theorem isValue_write (k : FieldKind) (v : k.Value) : isValue (Text.utf8 (k.write v)) := by
  cases k with
  | text => exact isValue_quote v
  | natural =>
    rw [write, utf8_repr]
    exact isValue_digits _
  | optionalText =>
    cases v with
    | none => decide +kernel
    | some s => exact isValue_quote s
  | integers =>
    rw [utf8_integers]
    exact isValue_array (by simp [isValue_integer])
  | timestamp => exact isValue_quote v.toText

theorem integer?_toInt (n : Int64) :
    (integer? (integer n.toInt)).map Int64.ofInt = some n := by
  rw [integer?_integer (Int64.le_toInt n) (Int64.toInt_lt n), Option.map_some, Int64.ofInt_toInt]

theorem mapM_integer? (ns : List Int64) :
    (ns.map fun n => integer n.toInt).mapM (fun v => (integer? v).map Int64.ofInt) = some ns := by
  induction ns with
  | nil => rfl
  | cons n ns ih => simp [integer?_toInt, ih]

theorem read?_write (k : FieldKind) (v : k.Value) : k.read? (Text.utf8 (k.write v)) = some v := by
  cases k with
  | text => exact string?_quote v
  | natural =>
    rw [write, utf8_repr, read?, natural?_digits (UInt64.toNat_lt v), Option.map_some,
      UInt64.ofNat_toNat]
  | optionalText =>
    cases v with
    | none => decide +kernel
    | some s => exact optional?_quote s
  | integers =>
    rw [utf8_integers, read?, listOf?, items?_array (by simp [isValue_integer]), Option.bind_some]
    exact mapM_integer? v
  | timestamp =>
    rw [write, read?, string?_quote, Option.bind_some, Timestamp.ofText?_toText]

end FieldKind

namespace Values

def written : (fs : List Field) → Values fs → List (String × Bytes)
  | [], _ => []
  | f :: fs, (v, vs) => (f.name, Text.utf8 (f.kind.write v)) :: written fs vs

theorem isValue_written : ∀ (fs : List Field) (vs : Values fs), ∀ m ∈ written fs vs, isValue m.2 := by
  intro fs vs
  induction fs with
  | nil => exact fun m hm => absurd hm List.not_mem_nil
  | cons f fs ih =>
    obtain ⟨v, vs⟩ := vs
    exact List.forall_mem_cons.2 ⟨f.kind.isValue_write v, ih vs⟩

theorem utf8_members (fs : List Field) (vs : Values fs) :
    (members fs vs).map Text.utf8 = (written fs vs).map member := by
  have colon : Text.utf8 ":" = [byte ':'] := by decide +kernel
  induction fs with
  | nil => rfl
  | cons f fs ih =>
    obtain ⟨v, vs⟩ := vs
    simp [members, written, member, colon, ih]

theorem utf8_write (fs : List Field) (vs : Values fs) :
    Text.utf8 (write fs vs) = object (written fs vs) := by
  rw [write, utf8_braces, utf8_members, object]

theorem names_written (fs : List Field) (vs : Values fs) :
    (written fs vs).map (·.1) = fs.map (·.name) := by
  induction fs with
  | nil => rfl
  | cons f fs ih =>
    obtain ⟨v, vs⟩ := vs
    rw [written, List.map_cons, List.map_cons, ih]

/-- A name that one member has finds this member. -/
theorem field?_of_mem {ms : List (String × Bytes)} (distinct : (ms.map (·.1)).Nodup)
    {m : String × Bytes} (hm : m ∈ ms) (index : Nat) :
    (Record.named ms).field? index [m.1] = some (some m.2) := by
  have alone : (ms.filter fun m' => [m.1].contains m'.1) = [m] := by
    induction ms with
    | nil => exact absurd hm List.not_mem_nil
    | cons first rest ih =>
      obtain ⟨new, distinct⟩ := List.nodup_cons.1 distinct
      have other : ∀ m' ∈ rest, m'.1 ≠ first.1 := fun m' hm' same =>
        new (List.mem_map.2 ⟨m', hm', same⟩)
      rcases List.mem_cons.1 hm with rfl | later
      · have none : (rest.filter fun m' => [m.1].contains m'.1) = [] := by
          simpa [List.filter_eq_nil_iff] using fun a b hm' => other (a, b) hm'
        rw [List.filter_cons_of_pos (by simp), none]
      · rw [List.filter_cons_of_neg (by simpa using (other m later).symm), ih distinct later]
  rw [Record.field?, alone]

theorem readFrom?_named {ms : List (String × Bytes)} (distinct : (ms.map (·.1)).Nodup)
    {fs : List Field} {vs : Values fs} (listed : written fs vs ⊆ ms) (index : Nat) :
    readFrom? (.named ms) index fs = some vs := by
  induction fs generalizing index with
  | nil => rfl
  | cons f fs ih =>
    obtain ⟨v, vs⟩ := vs
    have head : readField? (.named ms) index f = some v := by
      have given := field?_of_mem distinct (listed List.mem_cons_self) index
      rw [readField?, given]
      exact f.kind.read?_write v
    have tail := ih (fun m hm => listed (List.mem_cons_of_mem _ hm)) (index + 1)
    rw [readFrom?, head, tail]
    rfl

/-- A record whose fields have names of their own is read back. -/
theorem read?_write {fs : List Field} (distinct : (fs.map (·.name)).Nodup) (vs : Values fs) :
    read? fs (Text.utf8 (write fs vs)) = some vs := by
  rw [utf8_write, read?, Record.ofValue?_object (isValue_written fs vs), Option.bind_some]
  exact readFrom?_named (names_written fs vs ▸ distinct) (List.Subset.refl _) 0

end Values

namespace TypedEvent

/-- The type reads the body of this event as this event. -/
def RoundTrips (e : TypedEvent) : Prop := e.type.decode e.body = .ok e

theorem isValue_body (e : TypedEvent) : isValue (Text.utf8 e.body.text) := by
  rw [body, Values.utf8_write]
  exact isValue_object (Values.isValue_written e.type.fields e.values)

theorem roundTrips {e : TypedEvent} (distinct : (e.type.fields.map (·.name)).Nodup) :
    e.RoundTrips := by
  rw [RoundTrips, EventType.decode, document_value e.isValue_body, Option.bind_some, body,
    Values.read?_write distinct]

end TypedEvent

theorem Catalog.roundTrips {e : TypedEvent} (listed : e.type ∈ Catalog.types) : e.RoundTrips := by
  have distinct : ∀ t ∈ Catalog.types, (t.fields.map (·.name)).Nodup := by decide
  exact TypedEvent.roundTrips (distinct e.type listed)

end EventDispatch
