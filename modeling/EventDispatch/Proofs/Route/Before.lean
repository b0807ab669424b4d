import EventDispatch.Proofs.Route.Narrower

namespace EventDispatch.Pattern

variable {p q : Pattern}

def Alike (p q : Pattern) : Prop :=
  ('*' ∈ p.chars ↔ '*' ∈ q.chars) ∧ (p.chars = ['*'] ↔ q.chars = ['*'])

/-- Patterns without a star come before those with one, and the lone star comes last. Otherwise more
bytes before the first star come first, then more bytes in all, then the smaller normalized text, and
at last the smaller text. -/
inductive Before (p q : Pattern) : Prop where
  | exact (exact : '*' ∉ p.chars) (star : '*' ∈ q.chars)
  | lone (other : p.chars ≠ ['*']) (lone : q.chars = ['*'])
  | literal (alike : Alike p q) (more : q.literalPrefixLength < p.literalPrefixLength)
  | length (alike : Alike p q) (literal : p.literalPrefixLength = q.literalPrefixLength)
      (more : q.normalized.utf8ByteSize < p.normalized.utf8ByteSize)
  | text (alike : Alike p q) (literal : p.literalPrefixLength = q.literalPrefixLength)
      (length : p.normalized.utf8ByteSize = q.normalized.utf8ByteSize)
      (smaller : p.normalized < q.normalized)
  | source (same : p.normalized = q.normalized) (smaller : p.source < q.source)

theorem chars_eq_of_normalized (same : p.normalized = q.normalized) : p.chars = q.chars :=
  String.ofList_injective same

theorem alike_of_chars (same : p.chars = q.chars) : Alike p q := by
  rw [Alike, same]
  exact ⟨Iff.rfl, Iff.rfl⟩

theorem ne_lone_of_star_not_mem (none : '*' ∉ p.chars) : p.chars ≠ ['*'] :=
  fun lone => none (lone ▸ List.mem_singleton_self _)

/-- The tier tells the three kinds of pattern apart. -/
theorem tier_spec (p : Pattern) :
    ('*' ∈ p.chars ↔ p.tier ≠ 0) ∧ (p.chars = ['*'] ↔ p.tier = 2) ∧ p.tier ≤ 2 := by
  rcases p.tier_cases with ⟨none, zero⟩ | ⟨star, other, one⟩ | ⟨lone, two⟩
  · simp [none, zero, ne_lone_of_star_not_mem none]
  · simp [star, other, one]
  · simp [lone, two]

theorem tier_eq_iff : p.tier = q.tier ↔ Alike p q := by
  obtain ⟨star, lone, le⟩ := p.tier_spec
  obtain ⟨star', lone', le'⟩ := q.tier_spec
  rw [Alike, star, lone, star', lone']
  omega

theorem tier_lt_iff :
    p.tier < q.tier ↔ '*' ∉ p.chars ∧ '*' ∈ q.chars ∨ p.chars ≠ ['*'] ∧ q.chars = ['*'] := by
  obtain ⟨star, lone, le⟩ := p.tier_spec
  obtain ⟨star', lone', le'⟩ := q.tier_spec
  rw [ne_eq, star, lone, star', lone']
  omega

/-- Patterns are sorted by this order. -/
theorem cmp_eq_lt_iff_before : p.cmp q = .lt ↔ p.Before q := by
  simp only [cmp, Ordering.then_eq_lt, Nat.compare_eq_lt, compare_text_eq_lt,
    Std.LawfulEqOrd.compare_eq_iff_eq, tier_lt_iff, tier_eq_iff]
  constructor
  · rintro ((⟨exact, star⟩ | ⟨other, lone⟩) | ⟨alike, more | ⟨literal, more | ⟨length, text⟩⟩⟩)
    · exact .exact exact star
    · exact .lone other lone
    · exact .literal alike more
    · exact .length alike literal.symm more
    · rcases text with smaller | ⟨same, smaller⟩
      · exact .text alike literal.symm length.symm smaller
      · exact .source same smaller
  · intro before
    cases before with
    | exact exact star => exact .inl (.inl ⟨exact, star⟩)
    | lone other lone => exact .inl (.inr ⟨other, lone⟩)
    | literal alike more => exact .inr ⟨alike, .inl more⟩
    | length alike literal more => exact .inr ⟨alike, .inr ⟨literal.symm, .inl more⟩⟩
    | text alike literal length smaller =>
      exact .inr ⟨alike, .inr ⟨literal.symm, .inr ⟨length.symm, .inl smaller⟩⟩⟩
    | source same smaller =>
      have chars := chars_eq_of_normalized same
      have literal : q.literalPrefixLength = p.literalPrefixLength := by
        simp only [literalPrefixLength, literalPrefix, chars]
      exact .inr ⟨alike_of_chars chars, .inr ⟨literal, .inr ⟨same ▸ rfl, .inr ⟨same, smaller⟩⟩⟩⟩

theorem before_iff : p.Before q ↔ p.precedes q ∧ p ≠ q := by
  rw [← cmp_eq_lt_iff_before, cmp_eq_lt_iff_precedes]

theorem not_precedes_of_before (before : q.Before p) : ¬p.precedes q := by
  intro first
  obtain ⟨back, other⟩ := before_iff.1 before
  exact other (precedes_antisymm back first)

end EventDispatch.Pattern
