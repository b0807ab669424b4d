import EventDispatch.Proofs.Route.Narrower
import Mathlib.Data.List.Forall2

namespace EventDispatch

namespace Name

variable {c : Char} {cs ds : List Char} {ss ts : List (List Char)}

theorem segments_append_colon (cs ds : List Char) :
    segments (cs ++ ':' :: ds) = segments cs ++ segments ds := by
  induction cs with
  | nil => rfl
  | cons c cs ih =>
    by_cases colon : c = ':'
    · rw [colon, List.cons_append, segments_colon, segments_colon, ih, List.cons_append]
    · obtain ⟨s, more, first, grown⟩ := segments_cons colon cs
      obtain ⟨s', more', first', grown'⟩ := segments_cons colon (cs ++ ':' :: ds)
      rw [first, first', List.cons_append] at ih
      obtain ⟨rfl, rfl⟩ := List.cons.inj ih
      rw [List.cons_append, grown, grown', List.cons_append]

theorem join_append (some : ss ≠ []) (some' : ts ≠ []) :
    join (ss ++ ts) = join ss ++ ':' :: join ts := by
  induction ss with
  | nil => exact absurd rfl some
  | cons s ss ih =>
    cases ss with
    | nil => exact join_cons some'
    | cons s' ss =>
      have rest := ih (List.cons_ne_nil s' ss)
      rw [List.cons_append, join_cons (List.append_ne_nil_of_left_ne_nil (List.cons_ne_nil s' ss) ts),
        rest, join_cons (List.cons_ne_nil s' ss), List.append_assoc, List.cons_append]

/-- Nothing but colons is lost between the segments. -/
theorem mem_segments_iff (other : c ≠ ':') : (∃ s ∈ segments cs, c ∈ s) ↔ c ∈ cs := by
  induction cs with
  | nil => simp [segments]
  | cons d cs ih =>
    by_cases colon : d = ':'
    · rw [colon, segments_colon, List.mem_cons, or_iff_right other, ← ih]
      simp
    · obtain ⟨s, more, first, grown⟩ := segments_cons colon cs
      rw [first] at ih
      rw [grown, List.mem_cons, ← ih]
      simp [or_assoc]

/-- A text that begins with some segments of another is cut there. -/
theorem eq_join_of_segments (cut : segments cs = ss ++ ts) (some : ss ≠ []) (some' : ts ≠ []) :
    cs = join ss ++ ':' :: join ts := by
  rw [← join_append some some', ← cut, join_segments]

theorem segments_join_of_segments (cut : segments cs = ss ++ segments ds) (some : ss ≠ []) :
    segments (join ss) = ss := by
  have split := eq_join_of_segments cut some (segments_ne_nil ds)
  rw [split, segments_append_colon, join_segments] at cut
  exact List.append_cancel_right cut

end Name

namespace Pattern

open Name

/-- A star as the whole last segment, and none in the segments before it, of which there are some. -/
structure Below (stem parts : List (List Char)) : Prop where
  parts : parts = stem ++ [['*']]
  some : stem ≠ []
  plain : ∀ s ∈ stem, '*' ∉ s

def Faces (part given : List Char) : Prop :=
  part = ['*'] ∧ given ≠ [] ∨ part ≠ ['*'] ∧ given = part

variable {p : Pattern} {name : String} {stem : List (List Char)} {cs : List Char}

theorem below_iff :
    cs.count '*' = 1 ∧ [':', '*'] <:+ cs ↔ ∃ stem, Below stem (segments cs) := by
  constructor
  · rintro ⟨once, front, rfl⟩
    -- The one star is the last character.
    have plain : '*' ∉ front := by
      rw [List.count_append] at once
      apply List.count_eq_zero.1
      have last : List.count '*' [':', '*'] = 1 := rfl
      omega
    refine ⟨segments front, segments_append_colon front ['*'], segments_ne_nil front, ?_⟩
    exact fun s hs star => plain ((mem_segments_iff (by decide)).1 ⟨s, hs, star⟩)
  · rintro ⟨stem, parts, some, plain⟩
    have split : cs = join stem ++ [':', '*'] :=
      eq_join_of_segments parts some (List.cons_ne_nil _ _)
    have ends : segments cs = stem ++ segments ['*'] := parts
    have whole : segments (join stem) = stem := segments_join_of_segments ends some
    have none : (join stem).count '*' = 0 := by
      apply List.count_eq_zero.2
      intro star
      obtain ⟨s, hs, mem⟩ := (mem_segments_iff (by decide)).2 star
      rw [whole] at hs
      exact plain s hs mem
    rw [split, List.count_append, none]
    exact ⟨rfl, List.suffix_append _ _⟩

theorem shape_of_below (below : Below stem (segments p.chars)) :
    p.shape = .below (join stem ++ [':']) := by
  have split : p.chars = join stem ++ [':', '*'] :=
    eq_join_of_segments below.parts below.some (List.cons_ne_nil _ _)
  have star : '*' ∈ p.chars := split ▸ List.mem_append_right _ (by decide)
  have other : p.chars ≠ ['*'] := by
    intro lone
    have length := congrArg List.length (split.symm.trans lone)
    rw [List.length_append] at length
    simp at length
  rw [shape, shapeOf, if_neg other, if_neg (not_not_intro star), if_pos (below_iff.2 ⟨stem, below⟩),
    split, List.append_cons, List.dropLast_concat]

theorem shape_of_segments (star : '*' ∈ p.chars) (other : p.chars ≠ ['*'])
    (apart : ∀ stem, ¬Below stem (segments p.chars)) :
    p.shape = .segments ((segments p.chars).map segment) := by
  have not_below : ¬(p.chars.count '*' = 1 ∧ [':', '*'] <:+ p.chars) := by
    rw [below_iff, not_exists]
    exact apart
  rw [shape, shapeOf, if_neg other, if_neg (not_not_intro star), if_neg not_below]

theorem accepts_iff_of_plain (plain : '*' ∉ p.chars) : p.accepts name ↔ p.normalized = name := by
  have exact_shape : p.shape = .exact := by
    have other : p.chars ≠ ['*'] := fun lone => plain (lone ▸ List.mem_singleton_self _)
    rw [shape, shapeOf, if_neg other, if_pos plain]
  rw [accepts, exact_shape, beq_iff_eq, ← String.toList_inj, normalized, toList_normalize, chars]

theorem accepts_of_lone (lone : p.chars = ['*']) : p.accepts name := by
  rw [accepts, shape_of_lone lone]

/-- The name goes on after the stem of the pattern, with whatever there is of it. -/
theorem accepts_iff_of_below (below : Below stem (segments p.chars)) :
    p.accepts name ↔ stem.length < (segments name.toList).length ∧
      (segments name.toList).take stem.length = stem ∧
        join ((segments name.toList).drop stem.length) ≠ [] := by
  have ends : segments p.chars = stem ++ segments ['*'] := below.parts
  have whole : segments (join stem) = stem := segments_join_of_segments ends below.some
  rw [accepts, shape_of_below below, Bool.and_eq_true, decide_eq_true_iff,
    List.isPrefixOf_iff_prefix]
  constructor
  · rintro ⟨longer, rest, text⟩
    have more : rest ≠ [] := by
      rintro rfl
      rw [← text, List.append_nil] at longer
      exact Nat.lt_irrefl _ longer
    have given : segments name.toList = stem ++ segments rest := by
      rw [← text, List.append_assoc, List.singleton_append, segments_append_colon, whole]
    rw [given, List.take_left, List.drop_left, join_segments, List.length_append]
    have pos := List.length_pos_iff.2 (segments_ne_nil rest)
    exact ⟨Nat.lt_add_of_pos_right pos, rfl, more⟩
  · rintro ⟨longer, begins, more⟩
    -- Conversely the name is put together again from the stem and what comes after it.
    have rest : (segments name.toList).drop stem.length ≠ [] := by
      rw [ne_eq, List.drop_eq_nil_iff]
      exact Nat.not_le.2 longer
    have given : segments name.toList = stem ++ (segments name.toList).drop stem.length :=
      (List.take_append_drop stem.length _).symm.trans (congrArg (· ++ _) begins)
    have text := eq_join_of_segments given below.some rest
    rw [List.append_cons] at text
    constructor
    · have pos := List.length_pos_iff.2 more
      rw [text]
      exact Nat.lt_of_lt_of_eq (Nat.lt_add_of_pos_right pos) List.length_append.symm
    · rw [text]
      exact List.prefix_append _ _

theorem acceptsAll_iff {parts given : List (List Char)} :
    acceptsAll (parts.map segment) given ↔ List.Forall₂ Faces parts given := by
  induction parts generalizing given with
  | nil => cases given <;> simp [acceptsAll]
  | cons part parts ih =>
    cases given with
    | nil => simp [acceptsAll]
    | cons first given =>
      rw [List.map_cons, acceptsAll, Bool.and_eq_true, segment_accepts_iff, ih,
        List.forall₂_cons, Faces]

theorem accepts_iff_of_segments (star : '*' ∈ p.chars) (other : p.chars ≠ ['*'])
    (apart : ∀ stem, ¬Below stem (segments p.chars)) :
    p.accepts name ↔ List.Forall₂ Faces (segments p.chars) (segments name.toList) := by
  rw [accepts, shape_of_segments star other apart]
  exact acceptsAll_iff

/-- What the segments of a pattern and of a name say about whether the one matches the other. -/
structure Segmentwise (p : Pattern) (name : String) : Prop where
  plain : '*' ∉ p.chars → (p.accepts name ↔ p.normalized = name)
  lone : p.chars = ['*'] → p.accepts name
  /-- The name begins with the segments before the star, and what comes after them is not empty. -/
  below : ∀ stem, Below stem (segments p.chars) →
    (p.accepts name ↔ stem.length < (segments name.toList).length ∧
      (segments name.toList).take stem.length = stem ∧
        join ((segments name.toList).drop stem.length) ≠ [])
  /-- There are as many segments in both, and each of the pattern's faces its own. -/
  each : '*' ∈ p.chars → p.chars ≠ ['*'] → (∀ stem, ¬Below stem (segments p.chars)) →
    (p.accepts name ↔ List.Forall₂ Faces (segments p.chars) (segments name.toList))

/-- A text that is not blank is a pattern, and what it matches is told by its segments: a pattern
without a star matches its own name, the lone star every name, one whose only star is its last segment
every name that goes on after the segments before it, and any other pattern the names with as many
segments, each of which faces its own. -/
theorem accepts_by_segments {text : String} (nonblank : Text.trim text ≠ "") :
    ∃ p, compile text = some p ∧ p.chars = normalizeChars (Text.trim text).toList ∧
      ∀ name, p.Segmentwise (normalize name) := by
  refine ⟨⟨Text.trim text, nonblank⟩, dif_pos nonblank, rfl, fun name => ?_⟩
  exact ⟨accepts_iff_of_plain, accepts_of_lone, fun stem => accepts_iff_of_below,
    accepts_iff_of_segments⟩

/-- A star inside a segment is a letter like others, and separators may trail. -/
theorem stars_and_trailing_separators :
    Text.trim " a.*b:* " ≠ "" ∧ Text.trim "a.*" ≠ "" ∧
      (∃ p, compile " a.*b:* " = some p ∧ p.accepts (normalize "a.*b.c") ∧
        ¬p.accepts (normalize "a.bb.c")) ∧
      ∃ p, compile "a.*" = some p ∧ p.accepts (normalize "a.:") ∧ ¬p.accepts (normalize "a.") := by
  have some : Text.trim " a.*b:* " ≠ "" := by decide
  have some' : Text.trim "a.*" ≠ "" := by decide
  obtain ⟨p, compiled, chars, matched⟩ := accepts_by_segments some
  obtain ⟨p', compiled', chars', matched'⟩ := accepts_by_segments some'
  refine ⟨some, some', ⟨p, compiled, ?_⟩, p', compiled', ?_⟩
  · have parts : segments p.chars = [['a'], ['*', 'b'], ['*']] := by
      rw [chars]
      decide
    have apart : ∀ stem, ¬Below stem (segments p.chars) := by
      rintro stem ⟨cut, -, plain⟩
      rw [parts] at cut
      have split : [['a'], ['*', 'b']] ++ [['*']] = stem ++ [['*']] := cut
      rw [← List.append_cancel_right split] at plain
      exact plain ['*', 'b'] (by decide) (by decide)
    have each := fun name => (matched name).each (chars ▸ by decide) (chars ▸ by decide) apart
    rw [each, each, parts]
    constructor
    · exact .cons (.inr ⟨by decide, rfl⟩) (.cons (.inr ⟨by decide, rfl⟩)
        (.cons (.inl ⟨rfl, by decide⟩) .nil))
    · intro faced
      have second : Faces ['*', 'b'] ['b', 'b'] := by
        cases faced with
        | cons _ rest => cases rest with
          | cons second _ => exact second
      rcases second with ⟨star, -⟩ | ⟨-, same⟩
      · cases star
      · cases same
  · have below : Below [['a']] (segments p'.chars) := by
      rw [chars']
      exact ⟨by decide, by decide, by decide⟩
    rw [(matched' _).below _ below, (matched' _).below _ below]
    decide

end Pattern
end EventDispatch
