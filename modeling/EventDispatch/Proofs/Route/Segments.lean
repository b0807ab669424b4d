import EventDispatch.Route.Pattern

namespace EventDispatch

namespace Text

def byteCount (cs : List Char) : Nat := (String.ofList cs).utf8ByteSize

theorem byteCount_append (cs ds : List Char) :
    byteCount (cs ++ ds) = byteCount cs + byteCount ds := by
  rw [byteCount, String.ofList_append, String.utf8ByteSize_append]
  rfl

theorem byteCount_cons (c : Char) (cs : List Char) :
    byteCount (c :: cs) = c.utf8Size + byteCount cs := by
  have one : byteCount [c] = c.utf8Size := by
    rw [byteCount, ← String.singleton_eq_ofList, String.utf8ByteSize_singleton]
  rw [← one, ← byteCount_append, List.singleton_append]

theorem byteCount_pos {cs : List Char} (ne : cs ≠ []) : 0 < byteCount cs := by
  obtain ⟨c, rest, rfl⟩ := List.exists_cons_of_ne_nil ne
  rw [byteCount_cons]
  exact Nat.lt_of_lt_of_le c.utf8Size_pos (Nat.le_add_right _ _)

theorem byteCount_mono {cs ds : List Char} (pre : cs <+: ds) :
    byteCount cs ≤ byteCount ds := by
  obtain ⟨rest, rfl⟩ := pre
  rw [byteCount_append]
  exact Nat.le_add_right _ _

theorem eq_of_prefix_of_byteCount {cs ds : List Char} (pre : cs <+: ds)
    (same : byteCount cs = byteCount ds) : cs = ds := by
  obtain ⟨rest, rfl⟩ := pre
  rw [byteCount_append] at same
  by_cases none : rest = []
  · rw [none, List.append_nil]
  · have pos := byteCount_pos none
    omega

end Text

namespace Name

def join : List (List Char) → List Char
  | [] => []
  | [s] => s
  | s :: more => s ++ ':' :: join more

theorem segments_colon (rest : List Char) : segments (':' :: rest) = [] :: segments rest := rfl

theorem segments_ne_nil (cs : List Char) : segments cs ≠ [] := by
  cases cs with
  | nil => exact List.cons_ne_nil _ _
  | cons c rest =>
    unfold segments
    split
    · exact List.cons_ne_nil _ _
    · split <;> exact List.cons_ne_nil _ _

theorem segments_cons {c : Char} (other : c ≠ ':') (rest : List Char) :
    ∃ s more, segments rest = s :: more ∧ segments (c :: rest) = (c :: s) :: more := by
  obtain ⟨s, more, some⟩ := List.exists_cons_of_ne_nil (segments_ne_nil rest)
  refine ⟨s, more, some, ?_⟩
  rw [segments, if_neg other, some]

theorem join_cons {s : List Char} {more : List (List Char)} (ne : more ≠ []) :
    join (s :: more) = s ++ ':' :: join more := by
  cases more with
  | nil => exact absurd rfl ne
  | cons t more => rfl

theorem join_segments (cs : List Char) : join (segments cs) = cs := by
  induction cs with
  | nil => rfl
  | cons c rest ih =>
    by_cases colon : c = ':'
    · rw [colon, segments_colon, join_cons (segments_ne_nil rest), ih, List.nil_append]
    · obtain ⟨s, more, some, grown⟩ := segments_cons colon rest
      rw [some] at ih
      rw [grown]
      cases more with
      | nil => exact congrArg _ ih
      | cons t more => exact congrArg _ ih

end Name

namespace Pattern

open Name Text

theorem segment_accepts_self {s : List Char} : (segment s).accepts s := by
  unfold segment
  split
  · next star => rw [star]; rfl
  · exact beq_self_eq_true s

theorem acceptsAll_self (ss : List (List Char)) : acceptsAll (ss.map segment) ss := by
  induction ss with
  | nil => rfl
  | cons s more ih => exact Bool.and_eq_true_iff.2 ⟨segment_accepts_self, ih⟩

theorem length_of_acceptsAll {ss : List Segment} {ps : List (List Char)}
    (accepts : acceptsAll ss ps) : ss.length = ps.length := by
  induction ss generalizing ps with
  | nil =>
    cases ps with
    | nil => rfl
    | cons p ps => cases accepts
  | cons s ss ih =>
    cases ps with
    | nil => cases accepts
    | cons p ps =>
      exact congrArg (· + 1) (ih (Bool.and_eq_true_iff.1 accepts).2)

/-- A segment accepts its own text, and a lone star every text but the empty one. -/
theorem segment_accepts_iff {b a : List Char} :
    (segment b).accepts a ↔ b = ['*'] ∧ a ≠ [] ∨ b ≠ ['*'] ∧ a = b := by
  unfold segment
  split
  · next star =>
    simp only [Segment.accepts, star, true_and, ne_eq, not_true_eq_false, false_and, or_false]
    cases a <;> simp
  · next other =>
    simp only [Segment.accepts, other, false_and, false_or, beq_iff_eq, ne_eq, not_false_eq_true,
      true_and]
    exact eq_comm

def isLetter (c : Char) : Bool := c ≠ '*'

theorem takeWhile_mono_append (cs : List Char) {ds ds' : List Char}
    (pre : ds.takeWhile isLetter <+: ds'.takeWhile isLetter) :
    (cs ++ ds).takeWhile isLetter <+: (cs ++ ds').takeWhile isLetter := by
  rw [List.takeWhile_append, List.takeWhile_append]
  split
  · exact (List.prefix_append_right_inj cs).2 pre
  · exact List.prefix_refl _

theorem literal_prefix_of_acceptsAll {bs as : List (List Char)}
    (accepts : acceptsAll (bs.map segment) as) :
    (join bs).takeWhile isLetter <+: (join as).takeWhile isLetter := by
  induction bs generalizing as with
  | nil => exact List.nil_prefix
  | cons b bs ih =>
    cases as with
    | nil => cases accepts
    | cons a as =>
      obtain ⟨first, rest⟩ := Bool.and_eq_true_iff.1 accepts
      have same : bs.length = as.length := by
        simpa only [List.length_map] using length_of_acceptsAll rest
      rcases segment_accepts_iff.1 first with ⟨star, -⟩ | ⟨-, same_text⟩
      · -- The literal text is over before it begins.
        have none : (join (b :: bs)).takeWhile isLetter = [] := by
          rw [star]
          cases bs <;> rfl
        rw [none]
        exact List.nil_prefix
      · -- Both go on with the same text and a colon.
        subst same_text
        cases bs with
        | nil =>
          cases as with
          | nil => exact List.prefix_refl _
          | cons a' as => cases same
        | cons b' bs =>
          cases as with
          | nil => cases same
          | cons a' as =>
            rw [join_cons (List.cons_ne_nil _ _), join_cons (List.cons_ne_nil _ _)]
            apply takeWhile_mono_append
            exact takeWhile_mono_append [':'] (ih rest)

theorem byteCount_le_of_acceptsAll {bs as : List (List Char)}
    (accepts : acceptsAll (bs.map segment) as) : byteCount (join bs) ≤ byteCount (join as) := by
  induction bs generalizing as with
  | nil => exact Nat.zero_le _
  | cons b bs ih =>
    cases as with
    | nil => cases accepts
    | cons a as =>
      obtain ⟨first, rest⟩ := Bool.and_eq_true_iff.1 accepts
      have same : bs.length = as.length := by
        simpa only [List.length_map] using length_of_acceptsAll rest
      have le : byteCount b ≤ byteCount a := by
        rcases segment_accepts_iff.1 first with ⟨star, some⟩ | ⟨-, same_text⟩
        · -- A star is one byte long, and it stands for one at least.
          rw [star]
          exact byteCount_pos some
        · subst same_text
          exact Nat.le_refl _
      cases bs with
      | nil =>
        cases as with
        | nil => exact le
        | cons a' as => cases same
      | cons b' bs =>
        cases as with
        | nil => cases same
        | cons a' as =>
          rw [join_cons (List.cons_ne_nil _ _), join_cons (List.cons_ne_nil _ _), byteCount_append,
            byteCount_append, byteCount_cons, byteCount_cons]
          exact Nat.add_le_add le (Nat.add_le_add_left (ih rest) _)

end Pattern
end EventDispatch
