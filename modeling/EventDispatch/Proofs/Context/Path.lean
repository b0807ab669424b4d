import EventDispatch.Context
import EventDispatch.Proofs.Registry
import Mathlib.Data.List.Induction

namespace EventDispatch

inductive Link where
  | scope (handle : Nat)
  | deadline (moment : Nat)
  | value (key value : String)
deriving DecidableEq

namespace Link

def handle? : Link → Option Nat
  | .scope handle => some handle
  | _ => none

def moment? : Link → Option Nat
  | .deadline moment => some moment
  | _ => none

def value? (key : String) : Link → Option String
  | .value k v => if k = key then some v else none
  | _ => none

def handles (path : List Link) : List Nat := path.filterMap handle?

def earliest? (path : List Link) : Option Nat := (path.filterMap moment?).min?

def latest? (key : String) (path : List Link) : Option String :=
  (path.filterMap (value? key)).getLast?

variable {path : List Link}

theorem handles_concat (path : List Link) (l : Link) :
    handles (path ++ [l]) = handles path ++ l.handle?.toList := by
  rw [handles, List.filterMap_append, handles]
  cases l <;> rfl

theorem earliest?_concat (path : List Link) (l : Link) :
    earliest? (path ++ [l]) = match l.moment?, earliest? path with
      | some moment, some current => some (min current moment)
      | some moment, none => some moment
      | none, current => current := by
  rw [earliest?, List.filterMap_append, earliest?]
  cases given : l.moment? with
  | none => rw [List.filterMap_cons_none given, List.filterMap_nil, List.append_nil]
  | some moment =>
    rw [List.filterMap_cons_some given, List.filterMap_nil]
    cases path.filterMap moment? with
    | nil => rfl
    | cons first rest =>
      rw [List.cons_append, List.min?_cons', List.min?_cons', List.foldl_append]
      rfl

theorem latest?_concat (key : String) (path : List Link) (l : Link) :
    latest? key (path ++ [l]) = (l.value? key).or (latest? key path) := by
  rw [latest?, List.filterMap_append, List.getLast?_append, latest?]
  cases given : l.value? key with
  | none =>
    rw [List.filterMap_cons_none given]
    rfl
  | some v =>
    rw [List.filterMap_cons_some given]
    rfl

end Link

namespace Context

def extend (ctx : Context) : Link → Context
  | .scope handle => ctx.withScope handle
  | .deadline moment => ctx.withDeadline moment
  | .value key value => ctx.withValue key value

/-- The context is what its path makes of the background. -/
structure Follows (ctx : Context) (path : List Link) : Prop where
  scopes : ctx.scopes = Link.handles path
  deadline : ctx.deadline = Link.earliest? path
  value : ∀ key, ctx.value? key = Link.latest? key path

variable {ctx : Context} {path : List Link}

theorem follows_background : background.Follows [] := ⟨rfl, rfl, fun _ => rfl⟩

theorem Follows.extend (follows : ctx.Follows path) (l : Link) :
    (ctx.extend l).Follows (path ++ [l]) := by
  obtain ⟨scopes, deadline, value⟩ := follows
  constructor
  · rw [Link.handles_concat, ← scopes]
    cases l with
    | scope handle => rfl
    | deadline moment => exact (List.append_nil _).symm
    | value key value => exact (List.append_nil _).symm
  · rw [Link.earliest?_concat, ← deadline]
    cases l with
    | scope handle => rfl
    | deadline moment =>
      rw [Context.extend, withDeadline]
      cases ctx.deadline <;> rfl
    | value key value => rfl
  · intro k
    rw [Link.latest?_concat, ← value]
    cases l with
    | scope handle => rfl
    | deadline moment => rfl
    | value key v =>
      rw [Context.extend, withValue, value?, Keyed.find?_insert, Link.value?, value?]
      split <;> rfl

theorem Follows.isCancelled_iff (follows : ctx.Follows path) (fired : List Nat) (now : Nat) :
    ctx.isCancelled fired now ↔ (∃ handle ∈ Link.handles path, handle ∈ fired) ∨
      ∃ deadline, Link.earliest? path = some deadline ∧ deadline ≤ now := by
  rw [isCancelled, follows.scopes, follows.deadline, Bool.or_eq_true, List.any_eq_true]
  simp only [List.contains_iff_mem, Option.any_eq_true, decide_eq_true_eq]

theorem Follows.trace? (follows : ctx.Follows path) :
    ctx.trace? = Text.filled (Link.latest? traceKey path) := by
  rw [Context.trace?, follows.value]

/-- A context that is cancelled stays so. -/
theorem isCancelled_mono {fired fired' : List Nat} {now now' : Nat} (more : fired ⊆ fired')
    (later : now ≤ now') (cancelled : ctx.isCancelled fired now) : ctx.isCancelled fired' now' := by
  simp only [isCancelled, Bool.or_eq_true, List.any_eq_true, List.contains_iff_mem,
    Option.any_eq_true, decide_eq_true_eq] at cancelled ⊢
  rcases cancelled with ⟨handle, within, used⟩ | ⟨moment, given, come⟩
  · exact .inl ⟨handle, within, more used⟩
  · exact .inr ⟨moment, given, Nat.le_trans come later⟩

end Context
end EventDispatch
