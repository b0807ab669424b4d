import EventDispatch.Dispatch.Start
import EventDispatch.Proofs.Context.Path
import EventDispatch.Proofs.Runs
import Mathlib.Data.List.Induction

namespace EventDispatch

variable {h : Host}

/-- A context of a family. Its path leads there from the background, and each link is numbered as the
member that it made. -/
structure Member where
  ctx : Context
  path : List (Nat × Link)

namespace Member

def links (m : Member) : List Link := m.path.map (·.2)

def numbers (m : Member) : List Nat := m.path.map (·.1)

def handle? (m : Member) : Option Nat := m.path.getLast?.bind (·.2.handle?)

def background : Member := ⟨.background, []⟩

def derive (m : Member) (number : Nat) (l : Link) : Member :=
  ⟨m.ctx.extend l, m.path ++ [(number, l)]⟩

variable (m : Member) (number : Nat) (l : Link)

@[simp] theorem links_derive : (m.derive number l).links = m.links ++ [l] := List.map_append

@[simp] theorem numbers_derive : (m.derive number l).numbers = m.numbers ++ [number] :=
  List.map_append

@[simp] theorem getLast?_derive : (m.derive number l).path.getLast? = some (number, l) :=
  List.getLast?_concat

@[simp] theorem handle?_derive : (m.derive number l).handle? = l.handle? := by
  rw [handle?, getLast?_derive]
  rfl

end Member

/-- Each member is derived from the background or from another member, and in between handles are used,
time passes, and the dispatcher does its work. -/
structure Family (h : Host) where
  world : World h
  members : List Member
  /-- The members whose handles were used. -/
  fired : List Nat

namespace Family

inductive Derivation where
  | cancel
  | deadline (moment : Nat)
  | timeout (seconds : Nat)
  | value (key value : String)
  | trace (id : String)
deriving DecidableEq

def derived (w : World h) (t : Thread) (ctx : Context) : Derivation → Context × World h
  | .cancel =>
    let (scope, w) := w.answer t (.host .openScope)
    (ctx.withScope scope, w)
  | .deadline moment => (ctx.withDeadline moment, w)
  | .timeout seconds =>
    let (now, w) := w.answer t (.host .elapsed)
    (ctx.withTimeout now seconds, w)
  | .value key value => (ctx.withValue key value, w)
  | .trace id => (ctx.withTrace id, w)

/-- A timeout is a deadline from the moment on at which it was set. -/
def Derivation.link (w : World h) : Derivation → Link
  | .cancel => .scope w.scopes
  | .deadline moment => .deadline moment
  | .timeout seconds => .deadline (w.elapsed + seconds)
  | .value key v => .value key v
  | .trace id => .value Context.traceKey id

def scoping : Op h → Bool
  | .host .openScope => true
  | .host (.cancelScope _) => true
  | _ => false

inductive Move (h : Host) where
  /-- Derives a context from a member, or from the background. -/
  | derive (t : Thread) (origin : Option Nat) (d : Derivation)
  /-- Uses the handle that came with a member. -/
  | cancel (t : Thread) (number : Nat)
  | wait (seconds : Nat)
  /-- Any other step on the shared state. -/
  | other (t : Thread) (o : Op h)

def start (c : Config) (publisher : Option Publisher) (host : h.State) : Family h :=
  ⟨.start c publisher host, [], []⟩

def member? (f : Family h) : Option Nat → Option Member
  | none => some .background
  | some number => f.members[number]?

def handle? (f : Family h) (number : Nat) : Option Nat := f.members[number]?.bind Member.handle?

def isCancelled (f : Family h) (m : Member) : Bool :=
  m.ctx.isCancelled f.world.cancelled f.world.elapsed

/-- A move that cannot be made changes nothing. -/
def step (f : Family h) : Move h → Family h
  | .derive t origin d =>
    match f.member? origin with
    | none => f
    | some m =>
      let (ctx, world) := derived f.world t m.ctx d
      { f with
        world
        members := f.members ++ [⟨ctx, m.path ++ [(f.members.length, d.link f.world)]⟩] }
  | .cancel t number =>
    match f.handle? number with
    | none => f
    | some handle =>
      { f with
        world := (f.world.answer t (.host (.cancelScope handle))).2
        fired := number :: f.fired }
  | .wait seconds => { f with world := { f.world with elapsed := f.world.elapsed + seconds } }
  | .other t o => if scoping o then f else { f with world := (f.world.answer t o).2 }

def run (f : Family h) (moves : List (Move h)) : Family h := moves.foldl step f

def grow (f : Family h) (world : World h) (origin : Member) (l : Link) : Family h :=
  { f with world, members := f.members ++ [origin.derive f.members.length l] }

def fire (f : Family h) (number handle : Nat) : Family h :=
  { f with
    world := { f.world with cancelled := handle :: f.world.cancelled }
    fired := number :: f.fired }

variable {f : Family h} {m : Member}

section Steps

theorem derived_fst (w : World h) (t : Thread) (ctx : Context) (d : Derivation) :
    (derived w t ctx d).1 = ctx.extend (d.link w) := by
  cases d <;> rfl

/-- Deriving a context cancels none and takes no time; a new scope has a new handle. -/
theorem derived_snd (w : World h) (t : Thread) (ctx : Context) (d : Derivation) :
    (derived w t ctx d).2.cancelled = w.cancelled ∧ (derived w t ctx d).2.elapsed = w.elapsed ∧
      w.scopes ≤ (derived w t ctx d).2.scopes ∧ ∀ s, (d.link w).handle? = some s →
        s = w.scopes ∧ s < (derived w t ctx d).2.scopes := by
  cases d with
  | cancel =>
    refine ⟨rfl, rfl, Nat.le_succ _, fun s given => ?_⟩
    cases given
    exact ⟨rfl, Nat.lt_succ_self _⟩
  | _ => exact ⟨rfl, rfl, Nat.le_refl _, nofun⟩

theorem answer_of_not_scoping (w : World h) (t : Thread) {o : Op h} (apart : scoping o = false) :
    (w.answer t o).2.scopes = w.scopes ∧ (w.answer t o).2.cancelled = w.cancelled ∧
      (w.answer t o).2.elapsed = w.elapsed := by
  cases o with
  | host o =>
    cases o with
    | openScope => cases apart
    | cancelScope scope => cases apart
    | register type =>
      obtain ⟨types, after⟩ := w.register_concerns t type
      rw [World.answer, after]
      exact ⟨rfl, rfl, rfl⟩
    | _ => exact ⟨rfl, rfl, rfl⟩
  | publish ctx message =>
    obtain ⟨bus, buffer, trail, after⟩ := w.publish_concerns t ctx message
    rw [World.answer, after]
    exact ⟨rfl, rfl, rfl⟩
  | _ => exact ⟨rfl, rfl, rfl⟩

/-- Everything that one move can do. -/
theorem step_cases (f : Family h) (move : Move h) :
    (∃ world : World h, f.step move = { f with world } ∧ world.cancelled = f.world.cancelled ∧
        world.scopes = f.world.scopes ∧ f.world.elapsed ≤ world.elapsed) ∨
      (∃ world : World h, ∃ origin ∈ Member.background :: f.members, ∃ l : Link,
        f.step move = f.grow world origin l ∧ world.cancelled = f.world.cancelled ∧
        world.elapsed = f.world.elapsed ∧ f.world.scopes ≤ world.scopes ∧
        ∀ s, l.handle? = some s → s = f.world.scopes ∧ s < world.scopes) ∨
      ∃ number handle, f.handle? number = some handle ∧ f.step move = f.fire number handle := by
  have unchanged : f.step move = f → ∃ world : World h, f.step move = { f with world } ∧
      world.cancelled = f.world.cancelled ∧ world.scopes = f.world.scopes ∧
      f.world.elapsed ≤ world.elapsed := fun same => ⟨f.world, same, rfl, rfl, Nat.le_refl _⟩
  cases move with
  | derive t origin d =>
    cases given : f.member? origin with
    | none => exact .inl (unchanged (by simp only [step, given]))
    | some m =>
      have mem : m ∈ Member.background :: f.members := by
        cases origin with
        | none =>
          cases given
          exact List.mem_cons_self
        | some number => exact List.mem_cons_of_mem _ (List.mem_of_getElem? given)
      refine .inr (.inl ⟨(derived f.world t m.ctx d).2, m, mem, d.link f.world, ?_,
        derived_snd f.world t m.ctx d⟩)
      simp only [step, given, grow, Member.derive, derived_fst]
  | cancel t number =>
    cases given : f.handle? number with
    | none => exact .inl (unchanged (by simp only [step, given]))
    | some handle => exact .inr (.inr ⟨number, handle, given, by simp only [step, given]; rfl⟩)
  | wait seconds => exact .inl ⟨_, rfl, rfl, rfl, Nat.le_add_right _ _⟩
  | other t o =>
    cases apart : scoping o with
    | true => exact .inl (unchanged (by simp only [step, apart, if_true]))
    | false =>
      obtain ⟨scopes, cancelled, elapsed⟩ := answer_of_not_scoping f.world t apart
      refine .inl ⟨(f.world.answer t o).2, ?_, cancelled, scopes, Nat.le_of_eq elapsed.symm⟩
      simp only [step, apart, Bool.false_eq_true, if_false]

theorem getElem?_grow {n : Nat} {k origin : Member} {world : World h} {l : Link} :
    (f.grow world origin l).members[n]? = some k ↔ f.members[n]? = some k ∨
      n = f.members.length ∧ k = origin.derive f.members.length l := by
  rw [grow, List.getElem?_append]
  split
  · next below => simp only [Nat.ne_of_lt below, false_and, or_false]
  · next reached =>
    rw [List.getElem?_eq_none (Nat.le_of_not_lt reached), List.getElem?_singleton]
    split
    · next last =>
      have same : n = f.members.length := by omega
      simp only [same, true_and, reduceCtorEq, false_or, Option.some.injEq, eq_comm]
    · next beyond =>
      have other : n ≠ f.members.length := by omega
      simp only [other, false_and, reduceCtorEq, or_false]

theorem handle?_grow {n s : Nat} {origin : Member} {world : World h} {l : Link} :
    (f.grow world origin l).handle? n = some s ↔
      f.handle? n = some s ∨ n = f.members.length ∧ l.handle? = some s := by
  simp only [handle?, Option.bind_eq_some_iff, getElem?_grow]
  constructor
  · rintro ⟨k, old | ⟨last, rfl⟩, given⟩
    · exact .inl ⟨k, old, given⟩
    · exact .inr ⟨last, (Member.handle?_derive _ _ _).symm.trans given⟩
  · rintro (⟨k, old, given⟩ | ⟨last, given⟩)
    · exact ⟨k, .inl old, given⟩
    · exact ⟨_, .inr ⟨last, rfl⟩, (Member.handle?_derive _ _ _).trans given⟩

theorem mem_grow {k origin : Member} {world : World h} {l : Link} :
    k ∈ (f.grow world origin l).members ↔
      k ∈ f.members ∨ k = origin.derive f.members.length l := by
  rw [grow, List.mem_append, List.mem_singleton]

theorem lt_length_of_handle? {n s : Nat} (found : f.handle? n = some s) : n < f.members.length := by
  obtain ⟨k, found, -⟩ := Option.bind_eq_some_iff.1 found
  exact (List.getElem?_eq_some_iff.1 found).1

end Steps

/-- What holds of a family however it has grown. -/
structure Grown (f : Family h) : Prop where
  follows : ∀ m ∈ f.members, m.ctx.Follows m.links
  own : ∀ (n : Nat) m, f.members[n]? = some m → ∃ l, m.path.getLast? = some (n, l)
  made : ∀ m ∈ f.members, ∀ s ∈ m.path, ∃ k, f.members[s.1]? = some k ∧ k.path.getLast? = some s
  ascends : ∀ m ∈ f.members, m.numbers.Pairwise (· < ·)
  opened : ∀ n s, f.handle? n = some s → s < f.world.scopes
  apart : ∀ n k s, f.handle? n = some s → f.handle? k = some s → n = k
  used : ∀ n ∈ f.fired, ∃ s, f.handle? n = some s
  fired : ∀ n s, f.handle? n = some s → (n ∈ f.fired ↔ s ∈ f.world.cancelled)
  cancelled : ∀ s ∈ f.world.cancelled, s < f.world.scopes

theorem grown_start (c : Config) (publisher : Option Publisher) (host : h.State) :
    (start c publisher host).Grown where
  follows _ mem := absurd mem List.not_mem_nil
  own _ _ found := nomatch found
  made _ mem := absurd mem List.not_mem_nil
  ascends _ mem := absurd mem List.not_mem_nil
  opened _ _ found := nomatch found
  apart _ _ _ found := nomatch found
  used _ mem := absurd mem List.not_mem_nil
  fired _ _ found := nomatch found
  cancelled _ mem := absurd mem List.not_mem_nil

namespace Grown

theorem lt_length (grown : f.Grown) (mem : m ∈ f.members) : ∀ n ∈ m.numbers, n < f.members.length := by
  intro n at_n
  obtain ⟨s, on, rfl⟩ := List.mem_map.1 at_n
  obtain ⟨k, found, -⟩ := grown.made m mem s on
  exact (List.getElem?_eq_some_iff.1 found).1

/-- Time or another step changes nothing in the family. -/
theorem elsewhere (grown : f.Grown) {world : World h} (cancelled : world.cancelled = f.world.cancelled)
    (scopes : world.scopes = f.world.scopes) : { f with world }.Grown where
  follows := grown.follows
  own := grown.own
  made := grown.made
  ascends := grown.ascends
  opened n s found := scopes ▸ grown.opened n s found
  apart := grown.apart
  used := grown.used
  fired n s found := cancelled ▸ grown.fired n s found
  cancelled s mem := scopes ▸ grown.cancelled s (cancelled ▸ mem)

theorem fire (grown : f.Grown) {number handle : Nat} (given : f.handle? number = some handle) :
    (f.fire number handle).Grown where
  follows := grown.follows
  own := grown.own
  made := grown.made
  ascends := grown.ascends
  opened := grown.opened
  apart := grown.apart
  used n mem := by
    rcases List.mem_cons.1 mem with rfl | mem
    · exact ⟨handle, given⟩
    · exact grown.used n mem
  fired n s found := by
    have same : n = number ↔ s = handle := by
      constructor
      · rintro rfl
        exact Option.some.inj (found.symm.trans given)
      · rintro rfl
        exact grown.apart n number s found given
    exact List.mem_cons.trans ((or_congr same (grown.fired n s found)).trans List.mem_cons.symm)
  cancelled s mem := by
    rcases List.mem_cons.1 mem with rfl | mem
    · exact grown.opened number _ given
    · exact grown.cancelled s mem

/-- What is known of the members is known of the background too. -/
theorem origin (grown : f.Grown) {origin : Member} (mem : origin ∈ Member.background :: f.members) :
    origin.ctx.Follows origin.links ∧
      (∀ s ∈ origin.path, ∃ k, f.members[s.1]? = some k ∧ k.path.getLast? = some s) ∧
      origin.numbers.Pairwise (· < ·) ∧ ∀ n ∈ origin.numbers, n < f.members.length := by
  rcases List.mem_cons.1 mem with rfl | mem
  · exact ⟨Context.follows_background, nofun, .nil, nofun⟩
  · exact ⟨grown.follows _ mem, grown.made _ mem, grown.ascends _ mem, grown.lt_length mem⟩

theorem grow (grown : f.Grown) {origin : Member} {l : Link} {world : World h}
    (mem : origin ∈ Member.background :: f.members)
    (cancelled : world.cancelled = f.world.cancelled) (scopes : f.world.scopes ≤ world.scopes)
    (fresh : ∀ s, l.handle? = some s → s = f.world.scopes ∧ s < world.scopes) :
    (f.grow world origin l).Grown := by
  obtain ⟨follows, made, ascends, below⟩ := grown.origin mem
  constructor
  case follows =>
    intro m at_m
    rcases mem_grow.1 at_m with old | rfl
    · exact grown.follows m old
    · rw [Member.links_derive]
      exact follows.extend l
  case own =>
    intro n m found
    rcases getElem?_grow.1 found with old | ⟨rfl, rfl⟩
    · exact grown.own n m old
    · exact ⟨l, origin.getLast?_derive _ l⟩
  case made =>
    intro m at_m s on
    rcases mem_grow.1 at_m with old | rfl
    · obtain ⟨k, found, last⟩ := grown.made m old s on
      exact ⟨k, getElem?_grow.2 (.inl found), last⟩
    · rcases List.mem_append.1 on with on | on
      · obtain ⟨k, found, last⟩ := made s on
        exact ⟨k, getElem?_grow.2 (.inl found), last⟩
      · cases List.mem_singleton.1 on
        exact ⟨_, getElem?_grow.2 (.inr ⟨rfl, rfl⟩), origin.getLast?_derive _ l⟩
  case ascends =>
    intro m at_m
    rcases mem_grow.1 at_m with old | rfl
    · exact grown.ascends m old
    · rw [Member.numbers_derive, List.pairwise_append]
      refine ⟨ascends, List.pairwise_singleton _ _, fun n on k at_k => ?_⟩
      cases List.mem_singleton.1 at_k
      exact below n on
  case opened =>
    intro n s found
    rcases handle?_grow.1 found with old | ⟨-, given⟩
    · exact Nat.lt_of_lt_of_le (grown.opened n s old) scopes
    · exact (fresh s given).2
  case apart =>
    -- The new handle is none of those that were opened before.
    intro n k s found found'
    rcases handle?_grow.1 found with old | ⟨rfl, given⟩
    · rcases handle?_grow.1 found' with old' | ⟨rfl, given⟩
      · exact grown.apart n k s old old'
      · exact absurd (grown.opened n s old) ((fresh s given).1 ▸ Nat.lt_irrefl _)
    · rcases handle?_grow.1 found' with old | ⟨rfl, -⟩
      · exact absurd (grown.opened k s old) ((fresh s given).1 ▸ Nat.lt_irrefl _)
      · rfl
  case used =>
    intro n mem
    obtain ⟨s, found⟩ := grown.used n mem
    exact ⟨s, handle?_grow.2 (.inl found)⟩
  -- Nobody has used or cancelled the handle of the new member, which was given out just now.
  case fired =>
    intro n s found
    rw [Family.grow, cancelled]
    rcases handle?_grow.1 found with old | ⟨rfl, given⟩
    · exact grown.fired n s old
    · constructor
      · intro mem
        obtain ⟨s, found⟩ := grown.used _ mem
        exact absurd (lt_length_of_handle? found) (Nat.lt_irrefl _)
      · intro mem
        exact absurd (grown.cancelled s mem) ((fresh s given).1 ▸ Nat.lt_irrefl _)
  case cancelled =>
    intro s mem
    rw [Family.grow, cancelled] at mem
    exact Nat.lt_of_lt_of_le (grown.cancelled s mem) scopes

theorem step (grown : f.Grown) (move : Move h) : (f.step move).Grown := by
  rcases f.step_cases move with ⟨world, same, cancelled, scopes, -⟩ |
    ⟨world, origin, mem, l, same, cancelled, -, scopes, fresh⟩ | ⟨number, handle, given, same⟩
  · exact same ▸ grown.elsewhere cancelled scopes
  · exact same ▸ grown.grow mem cancelled scopes fresh
  · exact same ▸ grown.fire given

theorem run (grown : f.Grown) (moves : List (Move h)) : (f.run moves).Grown := by
  induction moves generalizing f with
  | nil => exact grown
  | cons move moves ih => exact ih (grown.step move)

/-- The handles that cancel a member are those that came with the members on its path. -/
theorem mem_handles_iff (grown : f.Grown) (mem : m ∈ Member.background :: f.members) (s : Nat) :
    s ∈ Link.handles m.links ↔ ∃ n ∈ m.numbers, f.handle? n = some s := by
  simp only [Link.handles, Member.links, Member.numbers, List.mem_filterMap, List.mem_map]
  constructor
  · rintro ⟨l, ⟨⟨n, l⟩, on, rfl⟩, given⟩
    obtain ⟨k, found, last⟩ := (grown.origin mem).2.1 _ on
    refine ⟨n, ⟨_, on, rfl⟩, ?_⟩
    rw [handle?, found, Option.bind_some, Member.handle?, last]
    exact given
  · rintro ⟨n, ⟨⟨n, l⟩, on, rfl⟩, found⟩
    obtain ⟨k, at_n, last⟩ := (grown.origin mem).2.1 _ on
    rw [handle?, at_n, Option.bind_some, Member.handle?, last] at found
    exact ⟨l, ⟨_, on, rfl⟩, found⟩

theorem isCancelled_iff (grown : f.Grown) (mem : m ∈ Member.background :: f.members) :
    f.isCancelled m ↔ (∃ n ∈ m.numbers, n ∈ f.fired) ∨
      ∃ deadline, Link.earliest? m.links = some deadline ∧ deadline ≤ f.world.elapsed := by
  rw [isCancelled, (grown.origin mem).1.isCancelled_iff]
  apply or_congr_left
  constructor
  · rintro ⟨s, on, cancelled⟩
    obtain ⟨n, on, given⟩ := (grown.mem_handles_iff mem s).1 on
    exact ⟨n, on, (grown.fired n s given).2 cancelled⟩
  · rintro ⟨n, on, fired⟩
    obtain ⟨s, given⟩ := grown.used n fired
    exact ⟨s, (grown.mem_handles_iff mem s).2 ⟨n, on, given⟩, (grown.fired n s given).1 fired⟩

/-- Only the members derived from this one, and it itself, are cancelled by its handle. -/
theorem isCancelled_fire (grown : f.Grown) {number handle : Nat}
    (given : f.handle? number = some handle) (mem : m ∈ f.members) :
    (f.fire number handle).isCancelled m ↔ number ∈ m.numbers ∨ f.isCancelled m := by
  have mem := List.mem_cons_of_mem Member.background mem
  have used : ∀ n, n ∈ (f.fire number handle).fired ↔ n = number ∨ n ∈ f.fired :=
    fun n => List.mem_cons
  rw [(grown.fire given).isCancelled_iff mem, grown.isCancelled_iff mem, ← or_assoc]
  apply or_congr_left
  simp only [used, and_or_left, exists_or, exists_eq_right]

/-- A member comes after those on the way to it. -/
theorem numbers_eq (grown : f.Grown) {n : Nat} (found : f.members[n]? = some m) :
    m.numbers = m.path.dropLast.map (·.1) ++ [n] ∧ ∀ k ∈ m.path.dropLast.map (·.1), k < n := by
  obtain ⟨l, last⟩ := grown.own n m found
  obtain ⟨before, path⟩ := List.getLast?_eq_some_iff.1 last
  have ascends := grown.ascends m (List.mem_of_getElem? found)
  rw [Member.numbers, path, List.map_append] at ascends
  rw [Member.numbers, path, List.dropLast_concat, List.map_append]
  exact ⟨rfl, fun k on => (List.pairwise_append.1 ascends).2.2 k on n List.mem_cons_self⟩

/-- No member is derived from one that was derived from it. -/
theorem ancestor_apart (grown : f.Grown) {n k : Nat} {m' : Member}
    (found : f.members[n]? = some m) (found' : f.members[k]? = some m') (on : k ∈ m.numbers)
    (other : k ≠ n) : n ∉ m'.numbers := by
  have before : k < n := by
    rw [(grown.numbers_eq found).1, List.mem_append, List.mem_singleton] at on
    exact (grown.numbers_eq found).2 k (on.resolve_right other)
  intro mem
  rw [(grown.numbers_eq found').1, List.mem_append, List.mem_singleton] at mem
  rcases mem with after | same
  · exact Nat.lt_asymm before ((grown.numbers_eq found').2 n after)
  · exact other same.symm

/-- Nor from one that was derived where it was itself. -/
theorem sibling_apart (grown : f.Grown) {n k : Nat} {m' : Member}
    (found : f.members[n]? = some m) (found' : f.members[k]? = some m')
    (trunk : m'.path.dropLast = m.path.dropLast) (other : k ≠ n) : n ∉ m'.numbers := by
  rw [(grown.numbers_eq found').1, trunk, List.mem_append, List.mem_singleton]
  rintro (before | same)
  · exact Nat.lt_irrefl n ((grown.numbers_eq found).2 n before)
  · exact other same.symm

end Grown

/-- Members stay as they are. -/
theorem getElem?_step {n : Nat} (found : f.members[n]? = some m) (move : Move h) :
    (f.step move).members[n]? = some m := by
  rcases f.step_cases move with ⟨world, same, -⟩ | ⟨world, origin, -, l, same, -⟩ |
    ⟨number, handle, -, same⟩
  · rw [same, found]
  · rw [same]
    exact getElem?_grow.2 (.inl found)
  · rw [same]
    exact found

/-- A move makes no context live again. -/
theorem isCancelled_step (cancelled : f.isCancelled m) (move : Move h) :
    (f.step move).isCancelled m := by
  rcases f.step_cases move with ⟨world, same, fired, -, elapsed⟩ |
    ⟨world, origin, -, l, same, fired, elapsed, -⟩ | ⟨number, handle, -, same⟩
  · rw [same]
    exact Context.isCancelled_mono (fun _ mem => fired ▸ mem) elapsed cancelled
  · rw [same]
    exact Context.isCancelled_mono (fun _ mem => fired ▸ mem) (Nat.le_of_eq elapsed.symm) cancelled
  · rw [same]
    exact Context.isCancelled_mono (List.subset_cons_self _ _) (Nat.le_refl _) cancelled

theorem getElem?_run {n : Nat} (found : f.members[n]? = some m) (moves : List (Move h)) :
    (f.run moves).members[n]? = some m := by
  induction moves generalizing f with
  | nil => exact found
  | cons move moves ih => exact ih (getElem?_step found move)

theorem isCancelled_run (cancelled : f.isCancelled m) (moves : List (Move h)) :
    (f.run moves).isCancelled m := by
  induction moves generalizing f with
  | nil => exact cancelled
  | cons move moves ih => exact ih (isCancelled_step cancelled move)

/-- A context is cancelled by nothing that is derived from a context. -/
theorem isCancelled_step_derive (f : Family h) (m : Member) (t : Thread) (origin : Option Nat)
    (d : Derivation) : (f.step (.derive t origin d)).isCancelled m = f.isCancelled m := by
  cases given : f.member? origin with
  | none => simp only [step, given]
  | some k =>
    obtain ⟨cancelled, elapsed, -⟩ := derived_snd f.world t k.ctx d
    simp only [step, given, isCancelled, cancelled, elapsed]

/-- Using a handle cancels the member that it came with and those derived from it. -/
theorem Grown.isCancelled_step_cancel (grown : f.Grown) (mem : m ∈ f.members) (t : Thread)
    (number : Nat) : (f.step (.cancel t number)).isCancelled m ↔
      number ∈ m.numbers ∧ (f.handle? number).isSome ∨ f.isCancelled m := by
  cases given : f.handle? number with
  | none =>
    simp only [Family.step, given, Option.isSome_none, Bool.false_eq_true, and_false, false_or]
  | some handle =>
    have fires : f.step (.cancel t number) = f.fire number handle := by
      simp only [Family.step, given]
      rfl
    rw [fires, grown.isCancelled_fire given mem, Option.isSome_some, and_iff_left rfl]

/-- However a family grows, each context is what its path makes of the background, and what befalls it
comes down that path only. -/
theorem contexts_follow_their_paths (c : Config) (publisher : Option Publisher) (host : h.State)
    (moves : List (Move h)) :
    let f := (start c publisher host).run moves
    (∀ m ∈ Member.background :: f.members,
      (∀ cancelled now, m.ctx.isCancelled cancelled now ↔
        (∃ handle ∈ Link.handles m.links, handle ∈ cancelled) ∨
          ∃ deadline, Link.earliest? m.links = some deadline ∧ deadline ≤ now) ∧
      (f.isCancelled m ↔ (∃ n ∈ m.numbers, n ∈ f.fired) ∨
        ∃ deadline, Link.earliest? m.links = some deadline ∧ deadline ≤ f.world.elapsed) ∧
      m.ctx.deadline = Link.earliest? m.links ∧
      (∀ key, m.ctx.value? key = Link.latest? key m.links) ∧
      m.ctx.trace? = Text.filled (Link.latest? Context.traceKey m.links)) ∧
    ∀ (n : Nat) m, f.members[n]? = some m →
      (∀ later, (f.run later).members[n]? = some m ∧
        (f.isCancelled m → (f.run later).isCancelled m)) ∧
      (∀ t origin d, (f.step (.derive t origin d)).isCancelled m = f.isCancelled m) ∧
      (∀ t k, (f.step (.cancel t k)).isCancelled m ↔
        k ∈ m.numbers ∧ (f.handle? k).isSome ∨ f.isCancelled m) ∧
      ∀ (k : Nat) m', f.members[k]? = some m' → k ≠ n →
        k ∈ m.numbers ∨ m'.path.dropLast = m.path.dropLast → n ∉ m'.numbers := by
  intro f
  -- All parts are read off the one invariant of families.
  have grown : f.Grown := (grown_start c publisher host).run moves
  refine ⟨fun m mem => ?_, fun n m found => ?_⟩
  · obtain ⟨follows, -⟩ := grown.origin mem
    exact ⟨follows.isCancelled_iff, grown.isCancelled_iff mem, follows.deadline, follows.value,
      follows.trace?⟩
  · have mem := List.mem_of_getElem? found
    refine ⟨fun later => ⟨getElem?_run found later, fun cancelled => isCancelled_run cancelled later⟩,
      f.isCancelled_step_derive m, grown.isCancelled_step_cancel mem, fun k m' found' other => ?_⟩
    rintro (ancestor | trunk)
    · exact grown.ancestor_apart found found' ancestor other
    · exact grown.sibling_apart found found' trunk other

/-- A parent, its child, and two children of that: cancelling one of them leaves the others as they
are, until the parent is cancelled. -/
example : let f := (start (h := bareHost) default none ()).run [.derive .main none .cancel,
      .derive .main (some 0) (.trace "t"), .derive .main (some 1) .cancel,
      .derive .main (some 1) (.timeout 5), .cancel .main 2]
    f.members.map f.isCancelled = [false, false, true, false] ∧
      f.members.map (f.step (.wait 5)).isCancelled = [false, false, true, true] ∧
      f.members.map (f.step (.cancel .main 0)).isCancelled = [true, true, true, true] :=
  ⟨rfl, rfl, rfl⟩

end Family
end EventDispatch
