import EventDispatch.Proofs.Route.Precedence

namespace EventDispatch.RouteTable

variable {entries entries' : List (String × Route)}

theorem compiled_of_pattern {text : String} (ne : text ≠ "") (entries : List (String × Route)) :
    ((entries.filterMap compileEntry).filter (·.1.source == text)).map (·.2) =
      (entries.filter fun e => Text.trim e.1 == text).map (·.2) := by
  induction entries with
  | nil => rfl
  | cons e rest ih =>
    cases compiled : compileEntry e with
    | none =>
      have other : Text.trim e.1 ≠ text := by
        intro same
        have some := compileEntry_eq_some (p := ⟨text, ne⟩).2 ⟨same, rfl⟩
        rw [compiled] at some
        cases some
      rw [List.filterMap_cons_none compiled, List.filter_cons_of_neg (by simpa using other), ih]
    | some row =>
      obtain ⟨source, route⟩ := compileEntry_eq_some.1 compiled
      by_cases same : row.1.source = text
      · rw [List.filterMap_cons_some compiled, List.filter_cons_of_pos (by simpa using same),
          List.filter_cons_of_pos (by simpa using source.trans same), List.map_cons, List.map_cons,
          ih, route]
      · rw [List.filterMap_cons_some compiled, List.filter_cons_of_neg (by simpa using same),
          List.filter_cons_of_neg (by simpa using fun e => same (source.symm.trans e)), ih]

/-- The routes of one pattern stand in the order in which they were listed. -/
theorem rows_of_pattern {text : String} (ne : text ≠ "") (entries : List (String × Route)) :
    ((load entries).rows.filter (·.1.source == text)).map (·.2) =
      (entries.filter fun e => Text.trim e.1 == text).map (·.2) := by
  rw [← compiled_of_pattern ne]
  congr 1
  -- Rows of one pattern are tied, and the sort is stable.
  have tied : ((entries.filterMap compileEntry).filter (·.1.source == text)).Pairwise
      fun x y => rowPrecedes x y := by
    apply List.pairwise_of_forall_mem_list
    intro x hx y hy
    have same : x.1 = y.1 := by
      apply Pattern.eq_of_source
      rw [beq_iff_eq.1 (List.mem_filter.1 hx).2, beq_iff_eq.1 (List.mem_filter.1 hy).2]
    rw [rowPrecedes, same]
    exact y.1.precedes_refl
  have kept := (List.sublist_mergeSort rowPrecedes_trans rowPrecedes_total tied
    List.filter_sublist).filter (·.1.source == text)
  simp only [List.filter_filter, Bool.and_self] at kept
  exact (kept.eq_of_length ((rows_perm entries).filter _).length_eq.symm).symm

theorem routes_of_pattern {text : String} (ne : text ≠ "") (entries : List (String × Route)) :
    ((load entries).routes.filter (·.1 == text)).map (·.2) =
      (entries.filter fun e => Text.trim e.1 == text).map (·.2) := by
  rw [← rows_of_pattern ne, routes, List.filter_map, List.map_map]
  rfl

/-- Rows that precedence does not tell apart are equal, when no pattern has two routes. -/
theorem load_perm (unambiguous : ∀ x ∈ entries, ∀ y ∈ entries,
      Text.trim x.1 = Text.trim y.1 → Text.trim x.1 ≠ "" → x.2 = y.2)
    (perm : entries'.Perm entries) : load entries' = load entries := by
  apply congrArg RouteTable.mk
  have same_rows := (rows_perm entries').trans ((perm.filterMap _).trans (rows_perm entries).symm)
  refine List.Perm.eq_of_pairwise ?_ (rows_sorted entries') (rows_sorted entries) same_rows
  · intro x y hx hy before after
    have same : x.1 = y.1 := Pattern.precedes_antisymm before after
    obtain ⟨e, he, source, route⟩ := mem_rows.1 hx
    obtain ⟨e', he', source', route'⟩ := mem_rows.1 hy
    have routes : e.2 = e'.2 := by
      apply unambiguous e (perm.mem_iff.1 he) e' he'
      · rw [source, source', same]
      · rw [source]
        exact x.1.source_ne
    exact Prod.ext same (route.symm.trans (routes.trans route'))

theorem perm_cons_cons {x y : String × Route} (hx : x ∈ entries) (hy : y ∈ entries) (ne : y ≠ x) :
    ∃ rest, (x :: y :: rest).Perm entries := by
  refine ⟨(entries.erase x).erase y, ?_⟩
  have second := List.perm_cons_erase ((List.mem_erase_of_ne ne).2 hy)
  exact ((second.symm.cons x).trans (List.perm_cons_erase hx).symm)

/-- Listing a map in another order changes nothing exactly when no two keys with the same text between
their blanks have different routes. -/
theorem load_perm_iff (entries : List (String × Route)) :
    (∀ entries', entries'.Perm entries → (load entries').routes = (load entries).routes ∧
        ∀ name, (load entries').route? name = (load entries).route? name) ↔
      ∀ x ∈ entries, ∀ y ∈ entries, Text.trim x.1 = Text.trim y.1 → Text.trim x.1 ≠ "" →
        x.2 = y.2 := by
  constructor
  · intro same x hx y hy text ne
    by_cases one : y = x
    · rw [one]
    · obtain ⟨rest, perm⟩ := perm_cons_cons hx hy one
      have swapped := (List.Perm.swap x y rest).trans perm
      -- Both lists give one table, which has the two routes in the order of each list.
      have routes := (same _ perm).1.trans (same _ swapped).1.symm
      have listed := congrArg (fun rs => (rs.filter (·.1 == Text.trim x.1)).map (·.2)) routes
      simp only [routes_of_pattern ne] at listed
      rw [List.filter_cons_of_pos (by simp), List.filter_cons_of_pos (by simp [text]),
        List.filter_cons_of_pos (by simp [text]), List.map_cons, List.map_cons] at listed
      exact (List.cons.inj listed).1
  · intro unambiguous entries' perm
    rw [load_perm unambiguous perm]
    exact ⟨rfl, fun name => rfl⟩

def padded : List (String × Route) := [("a", .inMemory), (" a", ⟨.external, some "t"⟩)]

theorem padded_order_matters :
    (padded.map (·.1)).Nodup ∧ padded.reverse.Perm padded ∧
      (load padded.reverse).routes ≠ (load padded).routes ∧
      (load padded.reverse).route? "a" ≠ (load padded).route? "a" := by
  have first : load padded = ⟨padded.filterMap compileEntry⟩ := load_of_sorted (by decide)
  have second : load padded.reverse = ⟨padded.reverse.filterMap compileEntry⟩ :=
    load_of_sorted (by decide)
  rw [first, second]
  exact ⟨by decide, List.reverse_perm padded, by decide, by decide⟩

end EventDispatch.RouteTable
