import EventDispatch.Route.Table

namespace EventDispatch

namespace Pattern

variable {p q : Pattern} {text : String}

theorem compile_eq_some_iff : compile text = some p ↔ Text.trim text = p.source := by
  obtain ⟨source, ne⟩ := p
  unfold compile
  by_cases blank : Text.trim text = ""
  · simp [blank, Ne.symm ne]
  · simp [blank]

theorem isSome_compile_iff : (compile text).isSome ↔ Text.trim text ≠ "" := by
  rw [Option.isSome_iff_exists]
  constructor
  · rintro ⟨p, compiled⟩
    rw [compile_eq_some_iff.1 compiled]
    exact p.source_ne
  · intro printed
    exact ⟨⟨Text.trim text, printed⟩, compile_eq_some_iff.2 rfl⟩

/-- The order as the composition of its five keys. -/
theorem cmp_eq_compareLex : cmp =
    compareLex (compareOn tier) (compareLex (fun p q => compareOn literalPrefixLength q p)
      (compareLex (fun p q => compareOn (·.normalized.utf8ByteSize) q p)
        (compareLex (compareOn normalized) (compareOn source)))) := rfl

instance : Std.TransCmp cmp := by
  rw [cmp_eq_compareLex]
  infer_instance

theorem eq_of_source (h : p.source = q.source) : p = q := by
  cases p
  cases q
  cases h
  rfl

instance : Std.LawfulEqCmp cmp where
  eq_of_compare same := by
    -- The last key is the text itself, and nothing else makes a pattern.
    simp only [cmp, Ordering.then_eq_eq] at same
    exact eq_of_source (Std.LawfulEqOrd.eq_of_compare same.2.2.2.2)

theorem cmp_eq_eq_iff : p.cmp q = .eq ↔ p = q := Std.LawfulEqCmp.compare_eq_iff_eq

theorem precedes_trans (p q r : Pattern) (h : p.precedes q) (h' : q.precedes r) : p.precedes r :=
  Std.TransCmp.isLE_trans h h'

theorem precedes_total (p q : Pattern) : p.precedes q || q.precedes p := by
  have swap : q.cmp p = (p.cmp q).swap := Std.OrientedCmp.eq_swap
  rw [precedes, precedes, swap]
  cases p.cmp q <;> rfl

theorem precedes_antisymm (h : p.precedes q) (h' : q.precedes p) : p = q :=
  cmp_eq_eq_iff.1 (Std.OrientedCmp.isLE_antisymm h h')

theorem precedes_refl (p : Pattern) : p.precedes p := by
  have total := precedes_total p p
  rwa [Bool.or_self] at total

theorem cmp_eq_lt_iff_precedes : p.cmp q = .lt ↔ p.precedes q ∧ p ≠ q := by
  rw [precedes, ne_eq, ← cmp_eq_eq_iff]
  cases p.cmp q <;> decide

end Pattern

namespace RouteTable

def rowPrecedes (x y : Pattern × Route) : Bool := x.1.precedes y.1

theorem rowPrecedes_trans (x y z : Pattern × Route) :
    rowPrecedes x y → rowPrecedes y z → rowPrecedes x z := Pattern.precedes_trans x.1 y.1 z.1

theorem rowPrecedes_total (x y : Pattern × Route) : rowPrecedes x y || rowPrecedes y x :=
  Pattern.precedes_total x.1 y.1

variable {entries : List (String × Route)}

theorem rows_sorted (entries : List (String × Route)) :
    (load entries).rows.Pairwise fun x y => rowPrecedes x y :=
  List.pairwise_mergeSort rowPrecedes_trans rowPrecedes_total _

theorem rows_perm (entries : List (String × Route)) :
    (load entries).rows.Perm (entries.filterMap compileEntry) := List.mergeSort_perm _ _

/-- Entries that are listed in order of precedence stay in the order in which they are listed. -/
theorem load_of_sorted (sorted : (entries.filterMap compileEntry).Pairwise
    fun x y => rowPrecedes x y) : load entries = ⟨entries.filterMap compileEntry⟩ :=
  congrArg RouteTable.mk (List.mergeSort_of_pairwise sorted)

theorem compileEntry_eq_some {entry : String × Route} {p : Pattern} {r : Route} :
    compileEntry entry = some (p, r) ↔ Text.trim entry.1 = p.source ∧ entry.2 = r := by
  rw [compileEntry, Option.map_eq_some_iff]
  constructor
  · rintro ⟨compiled, text, row⟩
    cases row
    exact ⟨Pattern.compile_eq_some_iff.1 text, rfl⟩
  · rintro ⟨text, rfl⟩
    exact ⟨p, Pattern.compile_eq_some_iff.2 text, rfl⟩

theorem mem_rows {p : Pattern} {r : Route} :
    (p, r) ∈ (load entries).rows ↔
      ∃ entry ∈ entries, Text.trim entry.1 = p.source ∧ entry.2 = r := by
  rw [(rows_perm entries).mem_iff, List.mem_filterMap]
  simp only [compileEntry_eq_some]

end RouteTable
end EventDispatch
