import EventDispatch.Event.Declaration
import Mathlib.Data.List.Perm.Basic

namespace EventDispatch

section Search

variable {α ε β : Type} {find : α → Option (Except ε β)} {l : List α}

def Mistaken (o : Option (Except ε β)) : Prop := ∃ e, o = some (.error e)

def Decisive (o : Option (Except ε β)) : Prop := ∃ b, o = some (.ok b)

theorem none_or_mistaken_or_decisive (o : Option (Except ε β)) :
    o = none ∨ Mistaken o ∨ Decisive o := by
  rcases o with _ | e | b
  · exact .inl rfl
  · exact .inr (.inl ⟨e, rfl⟩)
  · exact .inr (.inr ⟨b, rfl⟩)

theorem Decisive.not_mistaken {o : Option (Except ε β)} (decisive : Decisive o) : ¬Mistaken o := by
  rintro ⟨e, rfl⟩
  obtain ⟨b, same⟩ := decisive
  cases same

theorem mistaken_map_iff {γ : Type} {o : Option (Except ε β)} {f : β → γ} :
    Mistaken (o.map (·.map f)) ↔ Mistaken o := by
  rcases o with _ | e | b <;> simp [Mistaken, Except.map]

theorem decisive_map_iff {γ : Type} {o : Option (Except ε β)} {f : β → γ} :
    Decisive (o.map (·.map f)) ↔ Decisive o := by
  rcases o with _ | e | b <;> simp [Decisive, Except.map]

/-- Every mistake stands behind something that settles the matter. -/
def Covered (find : α → Option (Except ε β)) (l : List α) : Prop :=
  ∀ front a back, l = front ++ a :: back → Mistaken (find a) → ∃ b ∈ front, Decisive (find b)

theorem mistaken_findSome?_iff :
    Mistaken (l.findSome? find) ↔
      ∃ front a back, l = front ++ a :: back ∧ Mistaken (find a) ∧ ∀ b ∈ front, find b = none := by
  simp only [Mistaken, List.findSome?_eq_some_iff]
  constructor
  · rintro ⟨e, front, a, back, rfl, mistake, silent⟩
    exact ⟨front, a, back, rfl, ⟨e, mistake⟩, silent⟩
  · rintro ⟨front, a, back, rfl, ⟨e, mistake⟩, silent⟩
    exact ⟨e, front, a, back, rfl, mistake, silent⟩

/-- A search ends without a mistake exactly when each is covered. -/
theorem not_mistaken_iff : ¬Mistaken (l.findSome? find) ↔ Covered find l := by
  constructor
  · intro sound front a back parts mistake
    by_contra uncovered
    rw [parts, List.findSome?_append] at sound
    rcases none_or_mistaken_or_decisive (front.findSome? find) with none | wrong | ⟨b, decided⟩
    · obtain ⟨e, mistake⟩ := mistake
      exact sound ⟨e, by rw [none, Option.none_or, List.findSome?_cons, mistake]⟩
    · obtain ⟨e, wrong⟩ := wrong
      exact sound ⟨e, by rw [wrong, Option.some_or]⟩
    · obtain ⟨x, mem, decided⟩ := List.exists_of_findSome?_eq_some decided
      exact uncovered ⟨x, mem, b, decided⟩
  · intro covered mistaken
    obtain ⟨front, a, back, parts, mistake, silent⟩ := mistaken_findSome?_iff.1 mistaken
    obtain ⟨b, mem, c, decided⟩ := covered front a back parts mistake
    rw [silent b mem] at decided
    cases decided

/-- In some order a mistake comes first. -/
theorem exists_perm_mistaken_iff :
    (∃ l' : List α, l'.Perm l ∧ Mistaken (l'.findSome? find)) ↔ ∃ a ∈ l, Mistaken (find a) := by
  constructor
  · rintro ⟨l', perm, e, mistaken⟩
    obtain ⟨a, mem, mistake⟩ := List.exists_of_findSome?_eq_some mistaken
    exact ⟨a, perm.subset mem, e, mistake⟩
  · rintro ⟨a, mem, e, mistake⟩
    obtain ⟨front, back, rfl⟩ := List.append_of_mem mem
    exact ⟨a :: (front ++ back), List.perm_middle.symm, e, by rw [List.findSome?_cons, mistake]⟩

theorem decisive_findSome?_iff (sound : ¬Mistaken (l.findSome? find)) :
    Decisive (l.findSome? find) ↔ ∃ a ∈ l, Decisive (find a) := by
  constructor
  · rintro ⟨b, decided⟩
    obtain ⟨a, mem, decided⟩ := List.exists_of_findSome?_eq_some decided
    exact ⟨a, mem, b, decided⟩
  · rintro ⟨a, mem, b, decided⟩
    rcases none_or_mistaken_or_decisive (l.findSome? find) with none | mistaken | decisive
    · rw [List.findSome?_eq_none_iff.1 none a mem] at decided
      cases decided
    · exact absurd mistaken sound
    · exact decisive

end Search

namespace Attribute

/-- What an attribute says of the name: nothing, a name, or a mistake. -/
def name? (a : Attribute) : Option (Except AttributeError String) :=
  if a.isEvent then
    match nameIn a.entries with
    | .error e => some (.error e)
    | .ok none => none
    | .ok (some name) => some (if name = "" then .error .emptyName else .ok name)
  else none

def mark? (a : Attribute) : Option (Except AttributeError Unit) :=
  if a.isEvent then
    match marksTimestamp a.entries with
    | .error e => some (.error e)
    | .ok true => some (.ok ())
    | .ok false => none
  else none

def OnlyKey (known : String) (entries : List (List Token)) : Prop :=
  ∀ before entry after key more, entries = before ++ entry :: after →
    readKey after.isEmpty entry = .ok (key, more) → key = some known

def HasOtherKey (known : String) (a : Attribute) : Prop :=
  ∃ before entry after key more, a.entries = before ++ entry :: after ∧
    readKey after.isEmpty entry = .ok (key, more) ∧ key ≠ some known

theorem givenName_eq (as : List Attribute) :
    givenName as = match as.findSome? name? with
      | none => .ok none
      | some (.error e) => .error e
      | some (.ok name) => .ok (some name) := by
  induction as with
  | nil => rfl
  | cons a rest ih =>
    rw [givenName, List.findSome?_cons, name?]
    cases a.isEvent with
    | false => exact ih
    | true =>
      rcases nameIn a.entries with e | _ | name
      · rfl
      · exact ih
      · by_cases empty : name = "" <;> simp [empty]

theorem isMarked_eq (as : List Attribute) :
    isMarked as = match as.findSome? mark? with
      | none => .ok false
      | some (.error e) => .error e
      | some (.ok ()) => .ok true := by
  induction as with
  | nil => rfl
  | cons a rest ih =>
    rw [isMarked, List.findSome?_cons, mark?]
    cases a.isEvent with
    | false => exact ih
    | true =>
      rcases marksTimestamp a.entries with e | _ | _
      · rfl
      · exact ih
      · rfl

section Keys

variable {known : String} {entry more : List Token} {rest : List (List Token)}

theorem onlyKey_nil : OnlyKey known [] := by
  intro before entry after key more parts
  exact absurd parts.symm (List.append_ne_nil_of_right_ne_nil _ (List.cons_ne_nil _ _))

theorem OnlyKey.cons (reads : readKey rest.isEmpty entry = .ok (some known, more))
    (only : OnlyKey known rest) : OnlyKey known (entry :: rest) := by
  intro before entry' after key more' parts reads'
  cases before with
  | nil =>
    cases parts
    rw [reads] at reads'
    cases reads'
    rfl
  | cons x before =>
    cases parts
    exact only before entry' after key more' rfl reads'

/-- Nothing is no key. -/
theorem onlyKey_blank : OnlyKey known [[]] := by
  intro before entry after key more parts reads
  cases before with
  | nil =>
    cases parts
    cases reads
  | cons x before => exact onlyKey_nil before entry after key more (List.cons.inj parts).2 reads

theorem onlyKey_of_nameIn {entries : List (List Token)} {o : Option String}
    (reads : nameIn entries = .ok o) : OnlyKey "name" entries := by
  fun_induction nameIn entries generalizing o with
  | case1 => exact onlyKey_nil
  | case2 => exact onlyKey_blank
  | case3 entry rest _ e key => cases reads
  | case4 entry rest _ more key e value => cases reads
  | case5 entry rest _ more key value _ ih =>
    cases later : nameIn rest with
    | error e =>
      rw [later] at reads
      cases reads
    | ok o => exact .cons key (ih later)
  | case6 entry rest _ r other key => cases reads

theorem onlyKey_of_marksTimestamp {entries : List (List Token)} {marks : Bool}
    (reads : marksTimestamp entries = .ok marks) : OnlyKey "timestamp" entries := by
  fun_induction marksTimestamp entries generalizing marks with
  | case1 => exact onlyKey_nil
  | case2 => exact onlyKey_blank
  | case3 entry rest _ e key => cases reads
  | case4 entry rest _ more key _ ih =>
    cases later : marksTimestamp rest with
    | error e =>
      rw [later] at reads
      cases reads
    | ok marks => exact .cons key (ih later)
  | case5 entry rest _ more key _ => cases reads
  | case6 entry rest _ r other key => cases reads

variable {a : Attribute}

theorem not_onlyKey (other : a.HasOtherKey known) : ¬OnlyKey known a.entries := by
  obtain ⟨before, entry, after, key, more, parts, reads, ne⟩ := other
  exact fun only => ne (only before entry after key more parts reads)

theorem name?_mistaken (event : a.isEvent) (other : a.HasOtherKey "name") : Mistaken a.name? := by
  rw [name?, if_pos event]
  cases reads : nameIn a.entries with
  | error e => exact ⟨e, rfl⟩
  | ok o => exact absurd (onlyKey_of_nameIn reads) (not_onlyKey other)

theorem mark?_mistaken (event : a.isEvent) (other : a.HasOtherKey "timestamp") :
    Mistaken a.mark? := by
  rw [mark?, if_pos event]
  cases reads : marksTimestamp a.entries with
  | error e => exact ⟨e, rfl⟩
  | ok marks => exact absurd (onlyKey_of_marksTimestamp reads) (not_onlyKey other)

end Keys
end Attribute

def DeclaredField.mark? (f : DeclaredField) : Option (Except AttributeError String) :=
  (f.attributes.findSome? Attribute.mark?).map fun found => found.map fun () => f.name

namespace Declaration

variable {d : Declaration} {fields : List DeclaredField}

theorem markedField_eq (fields : List DeclaredField) :
    markedField fields = match fields.findSome? DeclaredField.mark? with
      | none => .ok none
      | some (.error e) => .error (.attribute e)
      | some (.ok field) => .ok (some field) := by
  induction fields with
  | nil => rfl
  | cons f rest ih =>
    rw [markedField, List.findSome?_cons, DeclaredField.mark?, Attribute.isMarked_eq]
    rcases f.attributes.findSome? Attribute.mark? with _ | e | _
    · exact ih
    · rfl
    · rfl

/-- But for the name of the field, the fields are searched as one list of attributes. -/
theorem findSome?_fields (fields : List DeclaredField) :
    (fields.findSome? DeclaredField.mark?).map (·.map fun _ => ()) =
      (fields.flatMap (·.attributes)).findSome? Attribute.mark? := by
  induction fields with
  | nil => rfl
  | cons f rest ih =>
    rw [List.findSome?_cons, List.flatMap_cons, List.findSome?_append, DeclaredField.mark?]
    rcases f.attributes.findSome? Attribute.mark? with _ | e | _
    · exact ih
    · rfl
    · rfl

theorem exists_eventName_iff :
    (∃ name, d.eventName = .ok name) ↔ ¬Mistaken (d.attributes.findSome? Attribute.name?) := by
  rw [eventName, Attribute.givenName_eq]
  rcases d.attributes.findSome? Attribute.name? with _ | e | name
  · exact iff_of_true ⟨_, rfl⟩ fun ⟨e, wrong⟩ => by cases wrong
  · exact iff_of_false (fun ⟨_, named⟩ => by cases named) fun sound => sound ⟨e, rfl⟩
  · exact iff_of_true ⟨_, rfl⟩ (Decisive.not_mistaken ⟨_, rfl⟩)

theorem exists_timestampField_iff (named : d.shape = .named fields) :
    (∃ field, d.timestampField = .ok field) ↔ ¬Mistaken (fields.findSome? DeclaredField.mark?) ∧
      (Decisive (fields.findSome? DeclaredField.mark?) ∨ ∃ f ∈ fields, f.name = "occurred_at") := by
  simp only [timestampField, named, markedField_eq]
  rcases fields.findSome? DeclaredField.mark? with _ | e | field
  · by_cases usual : ∃ f ∈ fields, f.name = "occurred_at" <;> simp [Mistaken, Decisive, usual]
  · simp [Mistaken]
  · simp [Mistaken, Decisive]

theorem exists_resolve_iff :
    (∃ r, d.resolve = .ok r) ↔
      d.isGeneric = false ∧ (∃ name, d.eventName = .ok name) ∧ ∃ field, d.timestampField = .ok field := by
  rw [resolve]
  cases d.isGeneric with
  | true => simp
  | false =>
    rcases d.eventName with e | name
    · simp
    · rcases d.timestampField with e | field <;> simp [Except.map]

theorem exists_error_iff : (∃ e, d.resolve = .error e) ↔ ¬∃ r, d.resolve = .ok r := by
  cases d.resolve <;> simp

/-- When a declaration of a struct with named fields is taken, and when the order of its attributes or
that of its fields decides that it is. -/
structure Judged (d : Declaration) (fields : List DeclaredField) : Prop where
  taken_iff : (∃ r, d.resolve = .ok r) ↔ d.isGeneric = false ∧
    Covered Attribute.name? d.attributes ∧
    Covered Attribute.mark? (fields.flatMap (·.attributes)) ∧
    ((∃ f ∈ fields, ∃ a ∈ f.attributes, Decisive a.mark?) ∨ ∃ f ∈ fields, f.name = "occurred_at")
  /-- An attribute of the struct with another key counts unless it is covered. -/
  other_key : ∀ a ∈ d.attributes, a.isEvent → a.HasOtherKey "name" → Mistaken a.name?
  other_field_key : ∀ f ∈ fields, ∀ a ∈ f.attributes, a.isEvent → a.HasOtherKey "timestamp" →
    Mistaken a.mark?
  attributes_matter : (∃ r, d.resolve = .ok r) →
    ((∃ as : List Attribute, as.Perm d.attributes ∧ ∃ e, { d with attributes := as }.resolve = .error e) ↔
      ∃ a ∈ d.attributes, Mistaken a.name?)
  fields_matter : (∃ r, d.resolve = .ok r) →
    ((∃ fs : List DeclaredField, fs.Perm fields ∧ ∃ e, { d with shape := .named fs }.resolve = .error e) ↔
      ∃ f ∈ fields, Mistaken f.mark?)

theorem taken_iff (named : d.shape = .named fields) :
    (∃ r, d.resolve = .ok r) ↔ d.isGeneric = false ∧
      Covered Attribute.name? d.attributes ∧
      Covered Attribute.mark? (fields.flatMap (·.attributes)) ∧
      ((∃ f ∈ fields, ∃ a ∈ f.attributes, Decisive a.mark?) ∨ ∃ f ∈ fields, f.name = "occurred_at") := by
  have sound : ¬Mistaken (fields.findSome? DeclaredField.mark?) ↔
      Covered Attribute.mark? (fields.flatMap (·.attributes)) := by
    rw [← not_mistaken_iff, ← findSome?_fields, mistaken_map_iff]
  have marked (covered : Covered Attribute.mark? (fields.flatMap (·.attributes))) :
      Decisive (fields.findSome? DeclaredField.mark?) ↔
        ∃ f ∈ fields, ∃ a ∈ f.attributes, Decisive a.mark? := by
    rw [← decisive_map_iff (f := fun _ => ()), findSome?_fields,
      decisive_findSome?_iff (not_mistaken_iff.2 covered)]
    simp only [List.mem_flatMap]
    exact ⟨fun ⟨a, ⟨f, mem, here⟩, marks⟩ => ⟨f, mem, a, here, marks⟩,
      fun ⟨f, mem, a, here, marks⟩ => ⟨a, ⟨f, mem, here⟩, marks⟩⟩
  rw [exists_resolve_iff, exists_eventName_iff, exists_timestampField_iff named, not_mistaken_iff, sound]
  exact and_congr_right fun _ => and_congr_right fun _ => and_congr_right fun covered =>
    or_congr_left (marked covered)

theorem attributes_matter_iff (taken : ∃ r, d.resolve = .ok r) :
    (∃ as : List Attribute, as.Perm d.attributes ∧ ∃ e, { d with attributes := as }.resolve = .error e) ↔
      ∃ a ∈ d.attributes, Mistaken a.name? := by
  obtain ⟨plain, -, moment⟩ := exists_resolve_iff.1 taken
  rw [← exists_perm_mistaken_iff]
  refine exists_congr fun as => and_congr_right fun _ => ?_
  -- Nothing but the name is looked for in these attributes.
  rw [exists_error_iff, exists_resolve_iff, exists_eventName_iff, not_iff_comm]
  exact ⟨fun sound => ⟨plain, sound, moment⟩, fun ⟨_, sound, _⟩ => sound⟩

theorem fields_matter_iff (named : d.shape = .named fields) (taken : ∃ r, d.resolve = .ok r) :
    (∃ fs : List DeclaredField, fs.Perm fields ∧ ∃ e, { d with shape := .named fs }.resolve = .error e) ↔
      ∃ f ∈ fields, Mistaken f.mark? := by
  obtain ⟨plain, name, moment⟩ := exists_resolve_iff.1 taken
  obtain ⟨sound, moment⟩ := (exists_timestampField_iff named).1 moment
  rw [← exists_perm_mistaken_iff]
  refine exists_congr fun fs => and_congr_right fun perm => ?_
  rw [exists_error_iff, exists_resolve_iff, not_iff_comm]
  refine ⟨fun sound' => ⟨plain, name, ?_⟩, fun ⟨_, _, found⟩ => ?_⟩
  · refine (exists_timestampField_iff rfl).2 ⟨sound', ?_⟩
    -- The fields that mark the moment or have the usual name are there in any order.
    rw [decisive_findSome?_iff sound] at moment
    rw [decisive_findSome?_iff sound']
    simpa only [perm.mem_iff] using moment
  · exact ((exists_timestampField_iff rfl).1 found).1

/-- A mistake in an attribute counts unless the name, or the moment, was settled before. -/
theorem mistakes_overlooked_iff (named : d.shape = .named fields) : d.Judged fields where
  taken_iff := taken_iff named
  other_key _ _ := Attribute.name?_mistaken
  other_field_key _ _ _ _ := Attribute.mark?_mistaken
  attributes_matter := attributes_matter_iff
  fields_matter := fields_matter_iff named

def naming : Attribute := ⟨"event", [⟨"name", some "order.paid"⟩]⟩

def marking : Attribute := ⟨"event", [⟨"timestamp", none⟩]⟩

def stray : Attribute := ⟨"event", [⟨"rename", some "paid"⟩]⟩

def lateFields : List DeclaredField := [⟨"at", [marking]⟩, ⟨"by", [stray]⟩]

def late : Declaration := ⟨"Paid", "", .named lateFields, [naming, stray]⟩

theorem stray_hasOtherKey {known : String} (other : "rename" ≠ known) : stray.HasOtherKey known :=
  ⟨[], stray.entries.head (by decide +kernel), [], some "rename", _, by decide +kernel, rfl,
    fun same => other (Option.some.inj same)⟩

/-- It is taken as it stands, and refused with its attributes or its fields the other way round. -/
theorem late_keys_overlooked :
    (∃ a ∈ late.attributes, a.isEvent ∧ a.HasOtherKey "name") ∧
      (∃ f ∈ lateFields, ∃ a ∈ f.attributes, a.isEvent ∧ a.HasOtherKey "timestamp") ∧
      late.resolve = .ok ("order.paid", "at") ∧
      { late with attributes := late.attributes.reverse }.resolve = .error (.attribute .unknownKey) ∧
      { late with shape := .named lateFields.reverse }.resolve =
        .error (.attribute .unknownFieldKey) := by
  have event : stray.isEvent := by decide +kernel
  refine ⟨⟨stray, by simp [late], event, stray_hasOtherKey (by decide)⟩,
    ⟨⟨"by", [stray]⟩, by simp [lateFields], stray, List.mem_singleton_self _, event,
      stray_hasOtherKey (by decide)⟩, rfl, rfl, rfl⟩

theorem late_attributes_matter : late.shape = .named lateFields ∧ (∃ r, late.resolve = .ok r) ∧
    ∃ as : List Attribute, as.Perm late.attributes ∧
      ∃ e, { late with attributes := as }.resolve = .error e := by
  have judged : late.Judged lateFields := mistakes_overlooked_iff rfl
  have taken : ∃ r, late.resolve = .ok r := ⟨_, rfl⟩
  have listed : stray ∈ late.attributes := List.mem_pair.2 (.inr rfl)
  have mistaken := judged.other_key stray listed (by decide +kernel) (stray_hasOtherKey (by decide))
  exact ⟨rfl, taken, (judged.attributes_matter taken).2 ⟨stray, listed, mistaken⟩⟩

end Declaration
end EventDispatch
