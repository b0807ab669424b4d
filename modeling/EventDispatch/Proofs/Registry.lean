import EventDispatch.Dispatch.Registry
import EventDispatch.Proofs.Keyed

namespace EventDispatch

section Decidable

variable {h : Host} [DecidableEq h.Listener]

instance : DecidableEq (Handler h)
  | .plain code, .plain code' => decidable_of_iff (code = code') (by simp)
  | .plain _, .typed _ _ => isFalse nofun
  | .typed _ _, .plain _ => isFalse nofun
  | .typed t code, .typed t' code' => decidable_of_iff (t = t' ∧ code = code') (by simp)

instance : DecidableEq (Entry h) := fun e e' =>
  decidable_of_iff (e.id = e'.id ∧ e.handler = e'.handler ∧ e.options = e'.options) (by
    cases e
    cases e'
    simp)

end Decidable

namespace Registry

variable {h : Host}

theorem entries_congr {r r' : Registry h} (listeners : r'.listeners = r.listeners) {name : String} :
    r'.entries name = r.entries name := by
  simp only [entries, listeners]

theorem entries_put (r : Registry h) (name n : String) (es : List (Entry h)) :
    (r.put name es).entries n = if name = n then es else r.entries n := by
  simp only [entries, put]
  split
  · next none =>
    rw [Keyed.find?_erase]
    split
    · rw [List.isEmpty_iff.1 none, Option.getD_none]
    · rfl
  · rw [Keyed.find?_insert]
    split <;> rfl

theorem listeners_claim (r : Registry h) (e : Entry h) : (r.claim e).2.listeners = r.listeners := by
  simp only [claim]
  split
  · rfl
  · split <;> rfl

theorem listeners_release (r : Registry h) (e : Entry h) : (r.release e).listeners = r.listeners := by
  simp only [release]
  split <;> rfl

theorem interceptors_claim (r : Registry h) (e : Entry h) :
    (r.claim e).2.interceptors = r.interceptors := by
  simp only [claim]
  split
  · rfl
  · split <;> rfl

theorem interceptors_release (r : Registry h) (e : Entry h) :
    (r.release e).interceptors = r.interceptors := by
  simp only [release]
  split <;> rfl

theorem mem_entries_insert {r : Registry h} {name n : String} {e x : Entry h} :
    x ∈ (r.insert name e).entries n ↔ x ∈ r.entries n ∨ name = n ∧ x = e := by
  simp only [insert, entries_put]
  split
  · next same =>
    subst same
    rw [List.mem_mergeSort, List.mem_append, List.mem_singleton]
    simp only [true_and]
  · next other => simp only [other, false_and, or_false]

theorem mem_entries_removeAll {r : Registry h} {name n : String} {ids : List Nat} {x : Entry h} :
    x ∈ (r.removeAll name ids).entries n ↔ x ∈ r.entries n ∧ (name = n → x.id ∉ ids) := by
  simp only [removeAll, entries_put]
  split
  · next same =>
    subst same
    simp only [List.mem_filter, Bool.not_eq_true', List.contains_eq_mem, decide_eq_false_iff_not,
      true_implies]
  · next other => simp only [other, false_implies, and_true]

end Registry
end EventDispatch
