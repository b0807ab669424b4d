import EventDispatch.Proofs.Route.Precedence
import Mathlib.Data.List.Nodup

namespace EventDispatch.Pattern

open Text

variable {p q : Pattern} {ps qs rs : List Pattern} {s t : String}

/-- The normalized form and the shape of a pattern follow from its text. -/
theorem eq_iff_parts :
    p = q ↔ p.source = q.source ∧ p.normalized = q.normalized ∧ p.shape = q.shape := by
  constructor
  · rintro rfl
    exact ⟨rfl, rfl, rfl⟩
  · exact fun same => eq_of_source same.1

theorem eq_iff_trim_eq (hp : compile s = some p) (hq : compile t = some q) :
    p = q ↔ trim s = trim t := by
  rw [compile_eq_some_iff.1 hp, compile_eq_some_iff.1 hq]
  exact ⟨congrArg source, eq_of_source⟩

/-- The second list has the patterns of the first, in order of precedence. -/
structure Arranged (ps qs : List Pattern) : Prop where
  perm : qs.Perm ps
  ordered : qs.Pairwise fun p q => (p.cmp q).isLE

theorem arranged_sort (ps : List Pattern) : Arranged ps (sort ps) :=
  ⟨List.mergeSort_perm ps precedes, List.pairwise_mergeSort precedes_trans precedes_total ps⟩

theorem Arranged.unique (first : Arranged ps qs) (second : Arranged ps rs) : qs = rs := by
  have same : qs.Perm rs := first.perm.trans second.perm.symm
  exact same.eq_of_pairwise (fun _ _ _ _ => precedes_antisymm) first.ordered second.ordered

theorem arranged_iff : Arranged ps qs ↔ qs = sort ps := by
  constructor
  · exact fun arranged => arranged.unique (arranged_sort ps)
  · rintro rfl
    exact arranged_sort ps

/-- In a sorted list each pattern comes strictly before the next when no two have the same text. -/
theorem sort_strict_iff :
    ((sort ps).Pairwise fun p q => p.cmp q = .lt) ↔ (ps.map source).Nodup := by
  obtain ⟨perm, ordered⟩ := arranged_sort ps
  rw [List.nodup_map_iff fun _ _ => eq_of_source, ← perm.nodup_iff, List.Nodup]
  simp only [cmp_eq_lt_iff_precedes, List.pairwise_and_iff]
  exact and_iff_right ordered

/-- Every text that is not blank is a pattern, and precedence is a linear order of patterns, in which
two are equal only when their texts are, but for the blanks around them. A list of patterns has one
arrangement, and patterns of different texts are strictly before one another in it. -/
theorem linear_and_sorted_one_way :
    (∀ s, (compile s).isSome ↔ trim s ≠ "") ∧
    (∀ s t u p q r, compile s = some p → compile t = some q → compile u = some r →
      ((p.cmp q).isLE ∨ (q.cmp p).isLE) ∧ q.cmp p = (p.cmp q).swap ∧
      ((p.cmp q).isLE → (q.cmp p).isLE → p = q) ∧
      ((p.cmp q).isLE → (q.cmp r).isLE → (p.cmp r).isLE) ∧
      (p.cmp q = .eq ↔ p = q) ∧
      (p = q ↔ p.source = q.source ∧ p.normalized = q.normalized ∧ p.shape = q.shape) ∧
      (p = q ↔ trim s = trim t)) ∧
    ∀ ps, (∀ qs, Arranged ps qs ↔ qs = sort ps) ∧
      (((sort ps).Pairwise fun p q => p.cmp q = .lt) ↔ (ps.map source).Nodup) := by
  refine ⟨fun s => isSome_compile_iff, ?_, fun ps => ⟨fun qs => arranged_iff, sort_strict_iff⟩⟩
  intro s t u p q r hp hq hr
  have total : p.precedes q ∨ q.precedes p := Bool.or_eq_true_iff.1 (precedes_total p q)
  exact ⟨total, Std.OrientedCmp.eq_swap, precedes_antisymm, precedes_trans p q r, cmp_eq_eq_iff,
    eq_iff_parts, eq_iff_trim_eq hp hq⟩

def dotted : Pattern := ⟨"cart.paid", by decide⟩

def coloned : Pattern := ⟨"cart:paid", by decide⟩

def anyCart : Pattern := ⟨"cart.*", by decide⟩

/-- Two spellings of one normalized pattern are told apart by their texts. -/
theorem spellings_sorted :
    dotted.normalized = coloned.normalized ∧ dotted.shape = coloned.shape ∧
      compile " cart.paid" = some dotted ∧ compile "cart:paid\n" = some coloned ∧
      dotted.cmp coloned ≠ .eq ∧ sort [anyCart, coloned, dotted] = [dotted, coloned, anyCart] := by
  obtain ⟨-, laws, lists⟩ := linear_and_sorted_one_way
  have first : compile " cart.paid" = some dotted := by decide
  have second : compile "cart:paid\n" = some coloned := by decide
  obtain ⟨-, -, -, -, equal, -, texts⟩ := laws _ _ _ _ _ _ first second first
  have apart : dotted.cmp coloned ≠ .eq := by
    rw [ne_eq, equal, texts]
    decide
  have arranged : Arranged [anyCart, coloned, dotted] [dotted, coloned, anyCart] :=
    ⟨by decide, by decide⟩
  exact ⟨by decide, by decide, first, second, apart, (((lists _).1 _).1 arranged).symm⟩

end EventDispatch.Pattern
