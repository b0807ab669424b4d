import EventDispatch.Proofs.Route.Precedence
import EventDispatch.Proofs.Route.Segments
import Mathlib.Data.List.TakeWhile

namespace EventDispatch

open Name Text

namespace Pattern

variable {p q : Pattern}

/-- Every name that `p` matches is matched by `q`, and not the other way round. -/
structure Narrower (p q : Pattern) : Prop where
  within : ∀ name, p.accepts (normalize name) → q.accepts (normalize name)
  strictly : ∃ name, q.accepts (normalize name) ∧ ¬p.accepts (normalize name)

theorem toList_normalize (name : String) : (normalize name).toList = normalizeChars name.toList :=
  String.toList_ofList

theorem shape_cases (p : Pattern) :
    p.chars = ['*'] ∧ p.shape = .universal ∨
      '*' ∉ p.chars ∧ p.shape = .exact ∨
      (∃ stem, p.chars = stem ++ ['*'] ∧ '*' ∉ stem ∧ p.shape = .below stem) ∨
      '*' ∈ p.chars ∧ p.shape = .segments ((segments p.chars).map segment) := by
  unfold shape shapeOf
  split
  · next lone => exact .inl ⟨lone, rfl⟩
  · split
    · next none => exact .inr (.inl ⟨none, rfl⟩)
    · next star =>
      split
      · next below =>
        obtain ⟨once, front, chars⟩ := below
        -- The one star is the last character, so that there is none in the stem.
        refine .inr (.inr (.inl ⟨p.chars.dropLast, ?_⟩))
        rw [← chars, List.append_cons, List.dropLast_concat]
        refine ⟨rfl, ?_, rfl⟩
        rw [← chars, List.append_cons, List.count_append] at once
        apply List.count_eq_zero.1
        have last : List.count '*' ['*'] = 1 := rfl
        omega
      · exact .inr (.inr (.inr ⟨Decidable.not_not.1 star, rfl⟩))

theorem chars_ne_nil (p : Pattern) : p.chars ≠ [] := by
  intro none
  apply p.source_ne
  rwa [chars, normalizeChars, List.map_eq_nil_iff, String.toList_eq_nil_iff] at none

/-- A pattern matches the name that has its own text. -/
theorem accepts_own (p : Pattern) : p.accepts (normalize p.source) := by
  have own : (normalize p.source).toList = p.chars := toList_normalize p.source
  unfold accepts
  rcases p.shape_cases with ⟨-, shape⟩ | ⟨-, shape⟩ | ⟨stem, chars, -, shape⟩ | ⟨-, shape⟩
  · rw [shape]
  · rw [shape, own]
    exact beq_self_eq_true p.chars
  · rw [shape, own, chars]
    simp
  · rw [shape, own]
    exact acceptsAll_self _

theorem accepts_congr (same : p.chars = q.chars) (name : String) :
    p.accepts name = q.accepts name := by
  simp only [accepts, shape, same]

theorem shape_of_lone (lone : p.chars = ['*']) : p.shape = .universal := by
  rw [shape, shapeOf, if_pos lone]

namespace Narrower

theorem chars_ne (narrower : p.Narrower q) : p.chars ≠ q.chars := by
  intro same
  obtain ⟨name, hq, hp⟩ := narrower.strictly
  exact hp (accepts_congr same (normalize name) ▸ hq)

theorem accepts_source (narrower : p.Narrower q) : q.accepts (normalize p.source) :=
  narrower.within p.source p.accepts_own

/-- The wider pattern has a star. -/
theorem star_mem (narrower : p.Narrower q) : '*' ∈ q.chars := by
  have wide := narrower.accepts_source
  unfold accepts at wide
  rcases q.shape_cases with ⟨lone, -⟩ | ⟨-, shape⟩ | ⟨stem, chars, -, -⟩ | ⟨star, -⟩
  · rw [lone]
    exact List.mem_singleton_self _
  · rw [shape, toList_normalize, beq_iff_eq] at wide
    exact absurd wide.symm narrower.chars_ne
  · rw [chars]
    exact List.mem_append_right _ (List.mem_singleton_self _)
  · exact star

/-- The narrower pattern is not the lone star. -/
theorem not_lone (narrower : p.Narrower q) : p.chars ≠ ['*'] := by
  intro lone
  obtain ⟨name, -, hp⟩ := narrower.strictly
  apply hp
  rw [accepts, shape_of_lone lone]

/-- The wider pattern has no more literal text before its first star, and is not longer. -/
theorem literal_and_length (narrower : p.Narrower q) :
    q.chars.takeWhile isLetter <+: p.chars.takeWhile isLetter ∧
      byteCount q.chars ≤ byteCount p.chars := by
  have wide := narrower.accepts_source
  unfold accepts at wide
  rcases q.shape_cases with ⟨lone, -⟩ | ⟨none, -⟩ | ⟨stem, chars, letters, shape⟩ | ⟨-, shape⟩
  · rw [lone]
    constructor
    · exact List.nil_prefix
    · exact byteCount_pos p.chars_ne_nil
  · exact absurd narrower.star_mem none
  · rw [shape, toList_normalize] at wide
    -- The text of `p` is the stem of `q` and at least one more character.
    obtain ⟨longer, pre⟩ := Bool.and_eq_true_iff.1 wide
    obtain ⟨rest, own⟩ := List.isPrefixOf_iff_prefix.1 pre
    have split : p.chars = stem ++ rest := own.symm
    have some : rest ≠ [] := by
      rintro rfl
      rw [← own, List.append_nil] at longer
      exact Nat.lt_irrefl _ (of_decide_eq_true longer)
    have all : ∀ c ∈ stem, isLetter c := fun c hc =>
      decide_eq_true fun star => letters (star ▸ hc)
    rw [chars, split, List.takeWhile_append_of_pos all, List.takeWhile_append_of_pos all,
      byteCount_append, byteCount_append]
    constructor
    · exact (List.prefix_append_right_inj stem).2 List.nil_prefix
    · exact Nat.add_le_add_left (byteCount_pos some) _
  · rw [shape, toList_normalize] at wide
    have literal := literal_prefix_of_acceptsAll wide
    have length := byteCount_le_of_acceptsAll wide
    rw [join_segments, join_segments] at literal length
    exact ⟨literal, length⟩

end Narrower

theorem compare_text_eq_lt {s t : String} : compare s t = .lt ↔ s < t :=
  compareOfLessAndEq_eq_lt

/-- Patterns of one tier: literal text before the first star, then length, then text. -/
theorem cmp_eq_lt_of_tier_eq (tier : p.tier = q.tier)
    (literal : q.literalPrefixLength ≤ p.literalPrefixLength)
    (length : q.normalized.utf8ByteSize ≤ p.normalized.utf8ByteSize)
    (text : p.normalized ≠ q.normalized) :
    p.cmp q = .lt ↔ ¬(p.literalPrefixLength = q.literalPrefixLength ∧
      p.normalized.utf8ByteSize = q.normalized.utf8ByteSize ∧ q.normalized < p.normalized) := by
  have texts : (compare p.normalized q.normalized).then (compare p.source q.source) = .lt ↔
      ¬q.normalized < p.normalized := by
    rw [Ordering.then_eq_lt, compare_text_eq_lt]
    constructor
    · rintro (before | ⟨same, -⟩)
      · exact String.lt_asymm before
      · exact absurd (Std.LawfulEqOrd.eq_of_compare same) text
    · intro after
      exact .inl (Decidable.byContradiction fun before =>
        text (String.le_antisymm (String.not_lt.1 after) (String.not_lt.1 before)))
  -- Each key decides unless it is the same, and then it leaves the decision to the next.
  have tiers : compare p.tier q.tier = .eq := Nat.compare_eq_eq.2 tier
  rw [cmp, tiers, Ordering.eq_then]
  rcases Nat.lt_or_eq_of_le literal with less | same
  · rw [Nat.compare_eq_lt.2 less, Ordering.lt_then]
    exact iff_of_true rfl fun tied => Nat.ne_of_gt less tied.1
  · rw [Nat.compare_eq_eq.2 same, Ordering.eq_then]
    rcases Nat.lt_or_eq_of_le length with less | same'
    · rw [Nat.compare_eq_lt.2 less, Ordering.lt_then]
      exact iff_of_true rfl fun tied => Nat.ne_of_gt less tied.2.1
    · rw [Nat.compare_eq_eq.2 same', Ordering.eq_then, texts]
      exact not_congr ⟨fun after => ⟨same.symm, same'.symm, after⟩, fun tied => tied.2.2⟩

theorem tier_cases (p : Pattern) :
    '*' ∉ p.chars ∧ p.tier = 0 ∨ '*' ∈ p.chars ∧ p.chars ≠ ['*'] ∧ p.tier = 1 ∨
      p.chars = ['*'] ∧ p.tier = 2 := by
  unfold tier
  rcases p.shape_cases with
    ⟨lone, shape⟩ | ⟨none, shape⟩ | ⟨stem, chars, letters, shape⟩ | ⟨star, shape⟩
  · rw [shape]
    exact .inr (.inr ⟨lone, rfl⟩)
  · rw [shape]
    exact .inl ⟨none, rfl⟩
  · have star : '*' ∈ p.chars := chars ▸ List.mem_append_right _ (List.mem_singleton_self _)
    have other : p.chars ≠ ['*'] := fun lone => by
      rw [shape_of_lone lone] at shape
      cases shape
    rw [shape]
    exact .inr (.inl ⟨star, other, rfl⟩)
  · have other : p.chars ≠ ['*'] := fun lone => by
      rw [shape_of_lone lone] at shape
      cases shape
    rw [shape]
    exact .inr (.inl ⟨star, other, rfl⟩)

namespace Narrower

theorem tier_le (narrower : p.Narrower q) : p.tier ≤ q.tier := by
  have wide : 1 ≤ q.tier := by
    rcases q.tier_cases with ⟨none, -⟩ | ⟨-, -, one⟩ | ⟨-, two⟩
    · exact absurd narrower.star_mem none
    · exact Nat.le_of_eq one.symm
    · rw [two]
      decide
  rcases p.tier_cases with ⟨-, zero⟩ | ⟨-, -, one⟩ | ⟨lone, -⟩
  · rw [zero]
    exact Nat.zero_le _
  · rwa [one]
  · exact absurd lone narrower.not_lone

/-- Patterns of two tiers are not tied. -/
theorem not_tied (narrower : p.Narrower q) (tier : p.tier < q.tier)
    (literal : p.literalPrefixLength = q.literalPrefixLength)
    (length : p.normalized.utf8ByteSize = q.normalized.utf8ByteSize) : False := by
  have before : q.chars.takeWhile isLetter = p.chars.takeWhile isLetter :=
    eq_of_prefix_of_byteCount narrower.literal_and_length.1 literal.symm
  rcases p.tier_cases with ⟨none, -⟩ | ⟨-, -, one⟩ | ⟨lone, -⟩
  · -- Without a star the literal text is the whole of it.
    have whole : p.chars.takeWhile isLetter = p.chars :=
      List.takeWhile_eq_self_iff.2 fun c hc => decide_eq_true fun star => none (star ▸ hc)
    have pre : p.chars <+: q.chars := whole ▸ before ▸ List.takeWhile_prefix isLetter
    exact narrower.chars_ne (eq_of_prefix_of_byteCount pre length)
  · rcases q.tier_cases with ⟨none, -⟩ | ⟨-, -, one'⟩ | ⟨lone, -⟩
    · exact absurd narrower.star_mem none
    · omega
    · -- As long as a lone star, and without literal text in front, `p` would be a lone star too.
      obtain ⟨c, rest, chars⟩ := List.exists_cons_of_ne_nil p.chars_ne_nil
      have star : c = '*' := by
        have nothing : q.chars.takeWhile isLetter = [] := by
          rw [lone]
          rfl
        rw [nothing, chars] at before
        by_cases letter : isLetter c
        · rw [List.takeWhile_cons_of_pos letter] at before
          cases before
        · exact Decidable.not_not.1 fun ne => letter (decide_eq_true ne)
      have count : byteCount p.chars = byteCount ['*'] := lone ▸ length
      rw [chars, star, byteCount_cons, byteCount_cons] at count
      have none : rest = [] := by
        by_cases some : rest = []
        · exact some
        · have pos := byteCount_pos some
          have zero : byteCount [] = 0 := rfl
          omega
      rw [star, none] at chars
      exact narrower.not_lone chars
  · exact narrower.not_lone lone

end Narrower

/-- The narrower pattern comes first, unless the literal texts before the first star are equally long,
the patterns are too, and the text of the wider pattern is the smaller one. -/
theorem Narrower.cmp_eq_lt_iff (narrower : p.Narrower q) :
    p.cmp q = .lt ↔ ¬(p.literalPrefixLength = q.literalPrefixLength ∧
      p.normalized.utf8ByteSize = q.normalized.utf8ByteSize ∧ q.normalized < p.normalized) := by
  rcases Nat.lt_or_eq_of_le narrower.tier_le with less | same
  · rw [cmp, Nat.compare_eq_lt.2 less, Ordering.lt_then]
    exact iff_of_true rfl fun tied => narrower.not_tied less tied.1 tied.2.1
  · obtain ⟨literal, length⟩ := narrower.literal_and_length
    apply cmp_eq_lt_of_tier_eq same (byteCount_mono literal) length
    intro text
    exact narrower.chars_ne (String.ofList_injective text)

end Pattern
end EventDispatch
