import EventDispatch.Dispatch.Application
import EventDispatch.Proofs.Registry
import EventDispatch.Proofs.Runs

namespace EventDispatch

variable {h : Host}

/-- How a delivery handled an entry that it had the right to run. -/
inductive Handling (h : Host) where
  | called (e : Entry h) (ctx : Context) (event : Event)
  | accepted (e : Entry h) (ctx : Context) (event : Event)
  | refused (e : Entry h)

namespace Handling

def entry : Handling h → Entry h
  | .called e _ _ => e
  | .accepted e _ _ => e
  | .refused e => e

/-- Whether the listener ran, or is sure to. -/
def ran : Handling h → Bool
  | .called .. => true
  | .accepted .. => true
  | .refused _ => false

def Suits (ctx : Context) (event : Event) : Handling h → Prop
  | .called e c ev => e.options.asynchronous = false ∧ c = ctx ∧ ev = event
  | .accepted e c ev => e.options.asynchronous = true ∧ c = ctx ∧ ev = event
  | .refused e => e.options.asynchronous = true

def IsOf (e : Entry h) (ctx : Context) (event : Event) (d : Handling h) : Prop :=
  d = .called e ctx event ∨ d = .accepted e ctx event ∨ d = .refused e

theorem Suits.eq_called {ctx : Context} {event : Event} {d : Handling h} (suits : d.Suits ctx event)
    (inline : d.entry.options.asynchronous = false) : d = .called d.entry ctx event := by
  cases d with
  | called e c ev =>
    obtain ⟨-, rfl, rfl⟩ := suits
    rfl
  | accepted e c ev => cases inline.symm.trans suits.1
  | refused e => cases inline.symm.trans suits

end Handling

/-- What a step shows of the handling of an entry. After a refusal the claim is handed back. -/
def Footstep.handling? : Footstep h → Option (Handling h)
  | .called (.listener e ctx event) => some (.called e ctx event)
  | .performed w (.enqueue (.listener e ctx event)) =>
    if (w.pool.enqueue (.listener e ctx event)).1.isOk then some (.accepted e ctx event) else none
  | .performed _ (.release e) => some (.refused e)
  | _ => none

theorem Footstep.handling?_of_accepted {w : World h} {e : Entry h} {ctx : Context} {event : Event}
    (accepted : (w.pool.enqueue (.listener e ctx event)).1 = .ok ()) :
    (Footstep.performed w (.enqueue (.listener e ctx event))).handling? =
      some (.accepted e ctx event) := by
  simp only [handling?, accepted, Except.isOk, Except.toBool, if_true]

theorem Footstep.handling?_of_refused {w : World h} {e : Entry h} {ctx : Context} {event : Event}
    {error : PoolError} (refused : (w.pool.enqueue (.listener e ctx event)).1 = .error error) :
    (Footstep.performed w (.enqueue (.listener e ctx event))).handling? = none := by
  simp only [handling?, refused, Except.isOk, Except.toBool, Bool.false_eq_true, if_false]

def handlings (path : List (Footstep h)) : List (Handling h) := path.filterMap Footstep.handling?

theorem handlings_append (first rest : List (Footstep h)) :
    handlings (first ++ rest) = handlings first ++ handlings rest :=
  List.filterMap_append

namespace Reference

def live (r : Registry h) (es : List (Entry h)) : List (Entry h) := es.filter fun e => !r.isSpent e

variable (results : Entry h → ListenerResult)

/-- Whether the entries after this one are reached. The results of async entries do not count. -/
def goesOn (e : Entry h) : Bool := e.options.asynchronous || (results e).isOk

/-- All entries up to the first that fails inline, and that one. -/
def reached (es : List (Entry h)) : List (Entry h) :=
  es.takeWhile (goesOn results) ++ (es.dropWhile (goesOn results)).take 1

def failure? (es : List (Entry h)) : Option (Entry h) := es.find? fun e => !goesOn results e

def answer (es : List (Entry h)) : ListenerResult :=
  match failure? results es with
  | some e => results e
  | none => .ok ()

def claims (hs : List (Handling h)) : List Nat :=
  ((hs.filter fun d => d.ran && d.entry.options.once).map (·.entry.id)).reverse

variable {results} {e : Entry h} {es : List (Entry h)} {r : Registry h}

theorem goesOn_of_async (asynchronous : e.options.asynchronous = true) : goesOn results e = true := by
  rw [goesOn, asynchronous, Bool.true_or]

theorem goesOn_of_ok {u : Unit} (result : results e = .ok u) : goesOn results e = true := by
  rw [goesOn, result]
  exact Bool.or_true _

theorem goesOn_of_error {error : ListenerError} (inline : e.options.asynchronous = false)
    (result : results e = .error error) : goesOn results e = false := by
  rw [goesOn, inline, result]
  rfl

theorem reached_cons_of_goesOn (go : goesOn results e = true) :
    reached results (e :: es) = e :: reached results es := by
  simp only [reached, List.takeWhile_cons_of_pos go, List.dropWhile_cons_of_pos go, List.cons_append]

theorem reached_cons_of_stops (stop : goesOn results e = false) : reached results (e :: es) = [e] := by
  have stop : ¬goesOn results e = true := Bool.not_eq_true _ ▸ stop
  simp only [reached, List.takeWhile_cons_of_neg stop, List.dropWhile_cons_of_neg stop,
    List.nil_append, List.take_succ_cons, List.take_zero]

/-- Only the results of these entries count. -/
theorem reached_congr {results' : Entry h → ListenerResult}
    (same : ∀ x ∈ es, results x = results' x) : reached results es = reached results' es := by
  induction es with
  | nil => rfl
  | cons e rest ih =>
    obtain ⟨first, later⟩ := List.forall_mem_cons.1 same
    have goes : goesOn results e = goesOn results' e := by rw [goesOn, goesOn, first]
    cases go : goesOn results' e with
    | true => rw [reached_cons_of_goesOn (goes.trans go), reached_cons_of_goesOn go, ih later]
    | false => rw [reached_cons_of_stops (goes.trans go), reached_cons_of_stops go]

theorem answer_cons_of_goesOn (go : goesOn results e = true) :
    answer results (e :: es) = answer results es := by
  simp only [answer, failure?, List.find?_cons, go, Bool.not_true]

theorem answer_cons_of_stops (stop : goesOn results e = false) :
    answer results (e :: es) = results e := by
  simp only [answer, failure?, List.find?_cons, stop, Bool.not_false]

theorem live_cons_of_spent (spent : r.isSpent e = true) : live r (e :: es) = live r es := by
  simp only [live, List.filter_cons, spent, Bool.not_true, Bool.false_eq_true, if_false]

theorem live_cons_of_unspent (unspent : r.isSpent e = false) :
    live r (e :: es) = e :: live r es := by
  simp only [live, List.filter_cons, unspent, Bool.not_false, if_true]

theorem claims_cons (d : Handling h) (hs : List (Handling h)) :
    claims (d :: hs) = claims hs ++ claims [d] := by
  rw [claims, ← List.singleton_append, List.filter_append, List.map_append, List.reverse_append]
  rfl

theorem claims_singleton (d : Handling h) :
    claims [d] = if d.ran && d.entry.options.once then [d.entry.id] else [] := by
  unfold claims
  rw [List.filter_cons, List.filter_nil]
  split <;> rfl

theorem mem_claims {i : Nat} {hs : List (Handling h)} :
    i ∈ claims hs ↔ ∃ d ∈ hs, d.ran = true ∧ d.entry.options.once = true ∧ d.entry.id = i := by
  simp only [claims, List.mem_reverse, List.mem_map, List.mem_filter, Bool.and_eq_true, and_assoc]

/-- Claims of entries with other ids do not matter. -/
theorem live_of_apart {ids : List Nat} (apart : ∀ i ∈ ids, i ∉ es.map (·.id)) :
    live { r with claimed := ids ++ r.claimed } es = live r es := by
  apply List.filter_congr
  intro x hx
  have other : x.id ∉ ids := fun mem => apart _ mem (List.mem_map.2 ⟨x, hx, rfl⟩)
  simp only [Registry.isSpent, List.contains_eq_mem, List.mem_append, other, false_or]

end Reference

namespace Registry

variable {r : Registry h} {e : Entry h} {es : List (Entry h)}

theorem claim_of_spent (spent : r.isSpent e = true) : r.claim e = (false, r) := by
  rw [isSpent, Bool.and_eq_true] at spent
  simp only [claim, spent.1, spent.2, Bool.not_true, Bool.false_eq_true, if_false, if_true]

theorem claim_of_unspent (unspent : r.isSpent e = false) :
    r.claim e =
      (true, { r with claimed := (if e.options.once then [e.id] else []) ++ r.claimed }) := by
  by_cases once : e.options.once
  · have unclaimed : ¬r.claimed.contains e.id = true := by
      intro claimed
      rw [isSpent, once, claimed] at unspent
      cases unspent
    simp only [claim, once, unclaimed, Bool.not_true, Bool.false_eq_true, if_false, if_true,
      List.singleton_append]
  · simp only [claim, once, Bool.not_false, if_true, Bool.false_eq_true, if_false, List.nil_append]

/-- A claim that was just granted is handed back without a trace. -/
theorem release_claim (unspent : r.isSpent e = false) : (r.claim e).2.release e = r := by
  by_cases once : e.options.once
  · have unclaimed : e.id ∉ r.claimed := by
      intro claimed
      rw [isSpent, once, List.contains_iff_mem.2 claimed] at unspent
      cases unspent
    have kept : r.claimed.filter (· != e.id) = r.claimed := by
      apply List.filter_eq_self.2
      intro i hi
      rw [bne_iff_ne]
      rintro rfl
      exact unclaimed hi
    simp only [claim_of_unspent unspent, release, once, if_true, List.singleton_append,
      List.filter_cons, bne_self_eq_false, Bool.false_eq_true, if_false, kept]
  · simp only [claim_of_unspent unspent, release, once, Bool.false_eq_true, if_false, List.nil_append]

end Registry
end EventDispatch
