import EventDispatch.Proofs.Route.Narrower

namespace EventDispatch

namespace RouteTable

def row? (t : RouteTable) (name : String) : Option (Pattern × Route) :=
  t.rows.find? fun r => r.1.accepts (Name.normalize name)

theorem route?_eq (t : RouteTable) (name : String) : t.route? name = (t.row? name).map (·.2) := rfl

variable {entries : List (String × Route)} {name : String}

/-- The deciding row precedes every row that matches the name. -/
theorem exists_row_of_mem {x : Pattern × Route} (hx : x ∈ (load entries).rows)
    (accepts : x.1.accepts (Name.normalize name)) :
    ∃ row, (load entries).row? name = some row ∧ rowPrecedes row x := by
  cases first : (load entries).row? name with
  | none => exact absurd accepts (List.find?_eq_none.1 first x hx)
  | some row =>
    obtain ⟨-, before, after, rows, passed⟩ := List.find?_eq_some_iff_append.1 first
    refine ⟨row, rfl, ?_⟩
    have sorted := rows_sorted entries
    rw [rows] at hx sorted
    rcases List.mem_append.1 hx with early | late
    · -- It would have been found itself.
      have refused := passed x early
      rw [accepts] at refused
      cases refused
    · rcases List.mem_cons.1 late with rfl | late
      · exact x.1.precedes_refl
      · exact (List.pairwise_cons.1 (List.pairwise_append.1 sorted).2.1).1 x late

end RouteTable

namespace Pattern

variable {p q : Pattern}

/-- The narrower of two patterns comes first, unless the literal texts before their first stars are
equally long, the patterns are too, and the text of the wider one is the smaller. When it comes first,
no name that it matches is decided by the wider one, in any table that it is in. -/
theorem narrower_wins (narrower : p.Narrower q) :
    (p.cmp q = .lt ↔ ¬(p.literalPrefixLength = q.literalPrefixLength ∧
      p.normalized.utf8ByteSize = q.normalized.utf8ByteSize ∧ q.normalized < p.normalized)) ∧
    (p.cmp q = .lt → ∀ entries, (∃ e ∈ entries, Text.trim e.1 = p.source) →
      ∀ name, p.accepts (Name.normalize name) → ∃ row, (RouteTable.load entries).row? name = some row ∧
        (RouteTable.load entries).route? name = some row.2 ∧ row.1 ≠ q) := by
  refine ⟨narrower.cmp_eq_lt_iff, ?_⟩
  rintro first entries ⟨e, he, source⟩ name accepts
  have own : (p, e.2) ∈ (RouteTable.load entries).rows := RouteTable.mem_rows.2 ⟨e, he, source, rfl⟩
  obtain ⟨row, found, precedes⟩ := RouteTable.exists_row_of_mem own accepts
  refine ⟨row, found, ?_, ?_⟩
  · rw [RouteTable.route?_eq, found, Option.map_some]
  · rintro rfl
    have swapped : row.1.cmp p = .gt := Std.OrientedCmp.gt_of_lt first
    rw [RouteTable.rowPrecedes, Pattern.precedes, swapped] at precedes
    cases precedes

def created : Pattern := ⟨"order.created", by decide⟩

def orders : Pattern := ⟨"order.*", by decide⟩

theorem created_narrower_orders : created.Narrower orders := by
  constructor
  · intro name accepts
    have exact_shape : created.shape = .exact := by decide
    have below_shape : orders.shape = .below "order:".toList := by decide
    rw [Pattern.accepts, exact_shape] at accepts
    rw [Pattern.accepts, below_shape, ← beq_iff_eq.1 accepts]
    decide
  · exact ⟨"order.paid", by decide, by decide⟩

def orderRoutes : List (String × Route) :=
  [("order.*", .inMemory), (" order.created", ⟨.external, none⟩)]

theorem created_decided_before_orders : ∃ row,
    (RouteTable.load orderRoutes).row? "order.created" = some row ∧ row.1 ≠ orders := by
  obtain ⟨first, decided⟩ := narrower_wins created_narrower_orders
  obtain ⟨row, found, -, other⟩ := decided (first.2 (by decide)) orderRoutes
    ⟨(" order.created", ⟨.external, none⟩), by decide, by decide⟩ "order.created" (by decide)
  exact ⟨row, found, other⟩

def endsInA : Pattern := ⟨"*.a", by decide⟩

def anyTwo : Pattern := ⟨"*.*", by decide⟩

/-- Of two equally long patterns that begin with a star the one with the smaller text comes first,
though here it is the wider one. -/
theorem wider_comes_first : endsInA.Narrower anyTwo ∧ endsInA.cmp anyTwo = .gt ∧
    (RouteTable.load [("*.*", .inMemory), ("*.a", ⟨.external, none⟩)]).route? "x.a" = some .inMemory := by
  refine ⟨⟨?_, "x.b", by decide, by decide⟩, by decide, ?_⟩
  · intro name accepts
    -- Both match names of two segments only, of which the wider one takes any.
    have narrow : endsInA.shape = .segments [.any, .literal ['a']] := by decide
    have wide : anyTwo.shape = .segments [.any, .any] := by decide
    rw [Pattern.accepts, narrow] at accepts
    rw [Pattern.accepts, wide]
    generalize Name.segments (Name.normalize name).toList = parts at accepts ⊢
    rcases parts with - | ⟨first, - | ⟨second, - | ⟨third, more⟩⟩⟩
    · cases accepts
    · simp [acceptsAll] at accepts
    · simp only [acceptsAll, Segment.accepts, Bool.and_true, Bool.and_eq_true,
        beq_iff_eq] at accepts ⊢
      exact ⟨accepts.1, accepts.2 ▸ rfl⟩
    · simp [acceptsAll] at accepts
  · rw [RouteTable.load_of_sorted (by decide)]
    decide

end Pattern
end EventDispatch
