import EventDispatch.Dispatch.Options
import Mathlib.Data.List.Induction

namespace EventDispatch.DispatchOptions

namespace Choice

def driver? : Choice → Option Driver
  | .driver d => some d
  | .external _ => some .external
  | _ => none

def topic? : Choice → Option String
  | .external t => some t
  | .topic t => some t
  | _ => none

def key? : Choice → Option String
  | .key k => some k
  | _ => none

def asynchronous? : Choice → Option Bool
  | .asynchronous on => some on
  | _ => none

def trace? : Choice → Option String
  | .trace id => some id
  | _ => none

structure Apart (c d : Choice) : Prop where
  driver : c.driver? = none ∨ d.driver? = none
  topic : c.topic? = none ∨ d.topic? = none
  key : c.key? = none ∨ d.key? = none
  asynchronous : c.asynchronous? = none ∨ d.asynchronous? = none
  trace : c.trace? = none ∨ d.trace? = none

end Choice

/-- What the last choice sets an option to, of those that set it. -/
def last {α : Type} (sets : Choice → Option α) (cs : List Choice) : Option α :=
  (cs.filterMap sets).getLast?

variable {α : Type} {c d : Choice} {cs before after : List Choice}

theorem last_concat (sets : Choice → Option α) (cs : List Choice) (c : Choice) :
    last sets (cs ++ [c]) = (sets c).or (last sets cs) := by
  unfold last
  rw [List.filterMap_append, List.getLast?_append]
  cases given : sets c with
  | none => rw [List.filterMap_cons_none given, List.filterMap_nil]; rfl
  | some a => rw [List.filterMap_cons_some given, List.filterMap_nil]; rfl

/-- A choice sets the options that it is about, and leaves the others. -/
theorem choose_eq (o : DispatchOptions) (c : Choice) :
    o.choose c = ⟨c.driver?.or o.driver, c.topic?.or o.topic, c.key?.or o.key,
      c.asynchronous?.getD o.asynchronous, c.trace?.or o.trace⟩ := by
  cases c <;> rfl

theorem ofChoices_concat (cs : List Choice) (c : Choice) :
    ofChoices (cs ++ [c]) = (ofChoices cs).choose c :=
  List.foldl_append

theorem ofChoices_eq (cs : List Choice) :
    ofChoices cs = ⟨last Choice.driver? cs, last Choice.topic? cs, last Choice.key? cs,
      (last Choice.asynchronous? cs).getD false, last Choice.trace? cs⟩ := by
  induction cs using List.reverseRecOn with
  | nil => rfl
  | append_singleton cs c ih =>
    rw [ofChoices_concat, choose_eq, ih]
    simp only [last_concat, Option.getD_or]

theorem or_swap {a b x : Option α} (apart : a = none ∨ b = none) : b.or (a.or x) = a.or (b.or x) := by
  rcases apart with rfl | rfl
  · rfl
  · rfl

theorem getD_swap {a b : Option α} {x : α} (apart : a = none ∨ b = none) :
    b.getD (a.getD x) = a.getD (b.getD x) := by
  rcases apart with rfl | rfl
  · rfl
  · rfl

theorem choose_comm (o : DispatchOptions) (apart : c.Apart d) :
    (o.choose c).choose d = (o.choose d).choose c := by
  simp only [choose_eq, or_swap apart.driver, or_swap apart.topic, or_swap apart.key,
    getD_swap apart.asynchronous, or_swap apart.trace]

theorem ofChoices_swap (apart : c.Apart d) :
    ofChoices (before ++ d :: c :: after) = ofChoices (before ++ c :: d :: after) := by
  simp only [ofChoices, List.foldl_append, List.foldl_cons, choose_comm _ apart]

end EventDispatch.DispatchOptions
