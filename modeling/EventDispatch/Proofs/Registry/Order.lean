import EventDispatch.Dispatch.Registry

namespace EventDispatch.Registry

variable {h : Host} {es es' : List (Entry h)}

theorem byPriority_trans (a b c : Entry h) (hab : byPriority a b) (hbc : byPriority b c) :
    byPriority a c := by
  simp only [byPriority, decide_eq_true_eq] at hab hbc ⊢
  omega

theorem byPriority_total (a b : Entry h) : byPriority a b || byPriority b a := by
  simp only [byPriority, Bool.or_eq_true, decide_eq_true_eq]
  omega

def ofPriority (k : Int) (es : List (Entry h)) : List (Entry h) :=
  es.filter fun e => e.options.priority = k

theorem mem_ofPriority {k : Int} {e : Entry h} :
    e ∈ ofPriority k es ↔ e ∈ es ∧ e.options.priority = k := by
  simp only [ofPriority, List.mem_filter, decide_eq_true_eq]

theorem ofPriority_cons_own (e : Entry h) (es : List (Entry h)) :
    ofPriority e.options.priority (e :: es) = e :: ofPriority e.options.priority es := by
  simp [ofPriority]

/-- An entry of another priority does not count. -/
theorem ofPriority_cons_ne {k : Int} {e : Entry h} (other : e.options.priority ≠ k) :
    ofPriority k (e :: es) = ofPriority k es := by
  simp [ofPriority, other]

theorem ofPriority_filter (k : Int) (p : Entry h → Bool) (es : List (Entry h)) :
    ofPriority k (es.filter p) = (ofPriority k es).filter p := by
  simp only [ofPriority, List.filter_filter, Bool.and_comm]

/-- A sort is stable. -/
theorem ofPriority_mergeSort (k : Int) (es : List (Entry h)) :
    ofPriority k (es.mergeSort byPriority) = ofPriority k es := by
  have tied : (ofPriority k es).Pairwise fun a b => byPriority a b := by
    apply List.pairwise_of_forall_mem_list
    intro a ha b hb
    have hk := (mem_ofPriority.1 ha).2.trans (mem_ofPriority.1 hb).2.symm
    simp only [byPriority, decide_eq_true_eq]
    omega
  -- Entries of one priority are in order already, so they stay a sublist.
  have stays : (ofPriority k es).Sublist (es.mergeSort byPriority) :=
    List.sublist_mergeSort byPriority_trans byPriority_total tied List.filter_sublist
  have inside := stays.filter fun e => decide (e.options.priority = k)
  rw [List.filter_eq_self.2 fun e he => by simpa using (mem_ofPriority.1 he).2] at inside
  have same := ((List.mergeSort_perm es byPriority).filter fun e =>
    decide (e.options.priority = k)).length_eq
  exact (inside.eq_of_length same.symm).symm

theorem mem_iff_of_ofPriority (tied : ∀ k, ofPriority k es = ofPriority k es') (e : Entry h) :
    e ∈ es ↔ e ∈ es' := by
  have both : e ∈ ofPriority e.options.priority es ↔ e ∈ ofPriority e.options.priority es' := by
    rw [tied]
  simpa only [mem_ofPriority, and_true] using both

theorem eq_of_ofPriority (hs : es.Pairwise fun a b => byPriority a b)
    (hs' : es'.Pairwise fun a b => byPriority a b)
    (tied : ∀ k, ofPriority k es = ofPriority k es') : es = es' := by
  have same : ∀ e, e ∈ es ↔ e ∈ es' := mem_iff_of_ofPriority tied
  induction es generalizing es' with
  | nil =>
    have none : ∀ e, e ∉ es' := fun e he => List.not_mem_nil ((same e).2 he)
    exact (List.eq_nil_iff_forall_not_mem.2 none).symm
  | cons a rest ih =>
    cases es' with
    | nil => exact absurd ((same a).1 List.mem_cons_self) List.not_mem_nil
    | cons b rest' =>
      have ha := List.pairwise_cons.1 hs
      have hb := List.pairwise_cons.1 hs'
      -- Both first entries have the lowest priority of all, and are the first of that priority.
      have lower : a.options.priority ≤ b.options.priority := by
        rcases List.mem_cons.1 ((same b).2 List.mem_cons_self) with rfl | later
        · exact Int.le_refl _
        · simpa [byPriority] using ha.1 b later
      have higher : b.options.priority ≤ a.options.priority := by
        rcases List.mem_cons.1 ((same a).1 List.mem_cons_self) with rfl | later
        · exact Int.le_refl _
        · simpa [byPriority] using hb.1 a later
      have level : b.options.priority = a.options.priority := Int.le_antisymm higher lower
      have first : ofPriority a.options.priority (b :: rest') =
          b :: ofPriority a.options.priority rest' := by
        rw [← level, ofPriority_cons_own]
      have heads := tied a.options.priority
      rw [ofPriority_cons_own, first] at heads
      obtain ⟨rfl, -⟩ := List.cons.inj heads
      have tails : ∀ k, ofPriority k rest = ofPriority k rest' := by
        intro k
        by_cases own : a.options.priority = k
        · subst own
          have both := tied a.options.priority
          rw [ofPriority_cons_own, ofPriority_cons_own] at both
          exact (List.cons.inj both).2
        · have both := tied k
          rwa [ofPriority_cons_ne own, ofPriority_cons_ne own] at both
      rw [ih ha.2 hb.2 tails (mem_iff_of_ofPriority tails)]

theorem mergeSort_pairwise (es : List (Entry h)) :
    (es.mergeSort byPriority).Pairwise fun a b => byPriority a b :=
  List.pairwise_mergeSort byPriority_trans byPriority_total es

/-- What is taken out may be taken out before the sort. -/
theorem filter_mergeSort (p : Entry h → Bool) (es : List (Entry h)) :
    (es.mergeSort byPriority).filter p = (es.filter p).mergeSort byPriority := by
  apply eq_of_ofPriority ((mergeSort_pairwise es).filter p) (mergeSort_pairwise _)
  intro k
  rw [ofPriority_filter, ofPriority_mergeSort, ofPriority_mergeSort, ofPriority_filter]

/-- An entry that comes to a sorted list takes the place that it has when all are sorted at once. -/
theorem mergeSort_append_singleton (es : List (Entry h)) (e : Entry h) :
    (es.mergeSort byPriority ++ [e]).mergeSort byPriority = (es ++ [e]).mergeSort byPriority := by
  apply eq_of_ofPriority (mergeSort_pairwise _) (mergeSort_pairwise _)
  intro k
  have before := ofPriority_mergeSort k es
  rw [ofPriority_mergeSort, ofPriority_mergeSort]
  simp only [ofPriority] at before
  simp only [ofPriority, List.filter_append, before]

end EventDispatch.Registry
