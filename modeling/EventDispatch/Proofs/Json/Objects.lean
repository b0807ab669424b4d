import EventDispatch.Proofs.Json.Layout

namespace EventDispatch.Json

open Scanner

variable {m : String × Bytes} {ms : List (String × Bytes)} {vs : List Bytes}

def member (m : String × Bytes) : Bytes := Text.utf8 (quote m.1) ++ byte ':' :: m.2

def object (ms : List (String × Bytes)) : Bytes := byte '{' :: closedBy (byte '}') (ms.map member)

def array (vs : List Bytes) : Bytes := byte '[' :: closedBy (byte ']') vs

theorem utf8_intercalate (texts : List String) (close : UInt8) :
    Text.utf8 (",".intercalate texts) ++ [close] = closedBy close (texts.map Text.utf8) := by
  induction texts with
  | nil => rfl
  | cons t texts ih =>
    cases texts with
    | nil => simp [closedBy]
    | cons u texts =>
      rw [List.map_cons] at ih
      rw [String.intercalate_cons_cons, Text.utf8_append, Text.utf8_append, List.append_assoc, ih,
        List.append_assoc]
      rfl

theorem utf8_braces (texts : List String) :
    Text.utf8 ("\x7b" ++ ",".intercalate texts ++ "\x7d") =
      byte '{' :: closedBy (byte '}') (texts.map Text.utf8) := by
  have opening : Text.utf8 "\x7b" = [byte '{'] := by decide +kernel
  have closing : Text.utf8 "\x7d" = [byte '}'] := by decide +kernel
  rw [Text.utf8_append, Text.utf8_append, opening, closing, List.append_assoc, utf8_intercalate]
  rfl

theorem spells_member (hv : isValue m.2) : SpellsMember m (member m) :=
  .intro (isValue_quote m.1) (string?_quote m.1) (padded_self _) hv (padded_self _)

theorem spells_object (hv : ∀ m ∈ ms, isValue m.2) : SpellsObject ms (object ms) := by
  cases ms with
  | nil =>
    have inside : Blanks [] := by simp [Blanks]
    exact .empty inside
  | cons m ms =>
    apply SpellsObject.filled (by simp)
    exact List.forall₂_map_right_iff.2 (List.forall₂_same.2 fun m hm => spells_member (hv m hm))

theorem isValue_object (hv : ∀ m ∈ ms, isValue m.2) : isValue (object ms) := (spells_object hv).isValue

/-- An object is read back as its members. -/
theorem members?_object (hv : ∀ m ∈ ms, isValue m.2) : members? (object ms) = some ms :=
  (spells_object hv).members?

theorem isValue_array (hv : ∀ v ∈ vs, isValue v) : isValue (array vs) := by
  have begun : beginValue [] (byte '[') = some ⟨.valueOrEnd, [.array]⟩ := rfl
  have fed : feed ⟨.valueOrEnd, [.array]⟩ (closedBy (byte ']') vs) = some ⟨.after, []⟩ := by
    cases vs with
    | nil => rfl
    | cons v vs =>
      have comma : afterValue [.array] (byte ',') = some ⟨.value, [.array]⟩ := rfl
      apply feed_closedBy rfl comma (by simp)
      intro part hp
      exact (value_fits (hv part hp) (padded_self part)).symm
  exact isValue_of_begins begun fed rfl

theorem items?_array (hv : ∀ v ∈ vs, isValue v) : items? (array vs) = some vs := by
  have opened : expect '[' (array vs) = some (closedBy (byte ']') vs) := rfl
  cases vs with
  | nil => rfl
  | cons v vs =>
    have filled : expect ']' (closedBy (byte ']') (v :: vs)) = none := by
      obtain ⟨b, rest, text⟩ := closedBy_cons (byte ']') v vs
      rw [text]
      exact expect_padded (hv v (by simp)) (padded_self v) _ rfl
    have enough : (v :: vs).length ≤ (array (v :: vs)).length := by
      have parts := length_le_closedBy (byte ']') (v :: vs)
      simp only [array, List.length_cons] at parts ⊢
      omega
    have spelled : List.Forall₂ (fun v part => isValue v ∧ Padded v part) (v :: vs) (v :: vs) :=
      List.forall₂_same.2 fun v hv' => ⟨hv v hv', padded_self v⟩
    simp only [items?, opened, Option.bind_eq_bind, Option.bind_some, filled, Option.isSome_none]
    exact read_closedBy (fun _ _ item _ => itemsFrom_part item.1 item.2 rfl rfl [])
      (fun _ _ item _ rest => itemsFrom_part item.1 item.2 rfl rfl rest) spelled (by simp) enough

end EventDispatch.Json
