import EventDispatch.Proofs.Delivery.Isolated
import EventDispatch.Proofs.Marks
import EventDispatch.Proofs.Registry.Intercepted
import Mathlib.Data.List.Forall2

namespace EventDispatch

variable {h : Host} {α : Type}

inductive Choice where
  | skip (r : ListenerResult)
  | go (ctx : Context) (event : Event)

/-- The marks that an interceptor leaves before it goes on and after that, the choices that it may make,
and what it makes of the result of those within. -/
structure Bracket (h : Host) where
  before : Context → Event → h.Mark
  after : Context → Event → h.Mark
  may : Context → Event → Choice → Prop
  map : Context → Event → ListenerResult → ListenerResult

/-- The marks up to the verdict and the verdict are those of the bracket, and so is what comes after. -/
def Bracket.Allows (app : Application h) (meanwhile : World h → World h → Prop) (t : Thread)
    (b : Bracket h) (ctx : Context) (event : Event) (ms : List h.Mark) : Verdict h → Prop
  | .finish r => ms = [b.before ctx event, b.after ctx event] ∧ b.may ctx event (.skip r)
  | .proceed ctx' event' look => ms = [b.before ctx event] ∧ b.may ctx event (.go ctx' event') ∧
      ∀ r, (look r).program.Leaves app meanwhile t fun ms r' =>
        ms = [b.after ctx event] ∧ r' = b.map ctx event r

/-- The interceptor does what the bracket says, whenever it is called. -/
def Bracket.Describes (app : Application h) (meanwhile : World h → World h → Prop) (t : Thread)
    (b : Bracket h) (i : Interceptor h) : Prop :=
  ∀ ctx event, (app.verdict i ctx event).program.Leaves app meanwhile t
    (b.Allows app meanwhile t ctx event)

def Bracket.script (b : Bracket h) (choose : Context → Event → Choice) (ctx : Context)
    (event : Event) : Script h (Verdict h) := do
  Script.act (.mark (b.before ctx event))
  match choose ctx event with
  | .skip r =>
    Script.act (.mark (b.after ctx event))
    return .finish r
  | .go ctx' event' =>
    return .proceed ctx' event' fun r => do
      Script.act (.mark (b.after ctx event))
      return b.map ctx event r

section Script

open Program

variable {app : Application h} {meanwhile : World h → World h → Prop} {t : Thread}

theorem Bracket.describes_of_script {b : Bracket h} {choose : Context → Event → Choice}
    {i : Interceptor h} (quiet : ∀ v v' : World h, meanwhile v v' → v'.marks t = v.marks t)
    (idle : ∀ v, meanwhile v v) (may : ∀ ctx event, b.may ctx event (choose ctx event))
    (code : ∀ ctx event, app.verdict i ctx event = b.script choose ctx event) :
    b.Describes app meanwhile t i := by
  intro ctx event
  have allowed := may ctx event
  rw [code, Bracket.script]
  refine .mark quiet idle ?_
  simp only []
  split
  · next r chosen =>
    exact .mark quiet idle (leaves_done ⟨rfl, chosen ▸ allowed⟩)
  · next ctx' event' chosen =>
    refine leaves_done ⟨rfl, chosen ▸ allowed, fun r => ?_⟩
    exact .mark quiet idle (leaves_done ⟨rfl, rfl⟩)

end Script

/-- A call of an interceptor with a context and an event. -/
structure Visit (h : Host) where
  bracket : Bracket h
  ctx : Context
  event : Event

namespace Visit

def before (v : Visit h) : h.Mark := v.bracket.before v.ctx v.event

def after (v : Visit h) : h.Mark := v.bracket.after v.ctx v.event

def map (v : Visit h) : ListenerResult → ListenerResult := v.bracket.map v.ctx v.event

def given (v : Visit h) : Context × Event := (v.ctx, v.event)

end Visit

inductive Ending (h : Host) where
  | skipped (v : Visit h) (r : ListenerResult)
  | listeners (ctx : Context) (event : Event)

def Ending.given : Ending h → List (Context × Event)
  | .skipped v _ => [v.given]
  | .listeners _ _ => []

/-- The way down a chain: whom it passes, with what the one before has chosen, and where it ends. -/
inductive Descent : List (Bracket h) → Context → Event → List (Visit h) → Ending h → Prop where
  | listeners {ctx : Context} {event : Event} : Descent [] ctx event [] (.listeners ctx event)
  | skip {b : Bracket h} {bs : List (Bracket h)} {ctx : Context} {event : Event} {r : ListenerResult}
      (may : b.may ctx event (.skip r)) : Descent (b :: bs) ctx event [] (.skipped ⟨b, ctx, event⟩ r)
  | go {b : Bracket h} {bs : List (Bracket h)} {ctx ctx' : Context} {event event' : Event}
      {passed : List (Visit h)} {last : Ending h} (may : b.may ctx event (.go ctx' event'))
      (rest : Descent bs ctx' event' passed last) :
      Descent (b :: bs) ctx event (⟨b, ctx, event⟩ :: passed) last

def Sight.given? : Sight h → Option (Context × Event)
  | .passed _ _ ctx event => some (ctx, event)
  | .ended _ _ ctx event => some (ctx, event)
  | _ => none

def Sight.Gives (e : Entry h) (ctx : Context) (event : Event) (s : Sight h) : Prop :=
  s.footstep = .called (.listener e ctx event) ∨
    ∃ found, s.footstep = .performed found (.enqueue (.listener e ctx event))

theorem Sight.gives_performed_iff {e : Entry h} {ctx : Context} {event : Event} {found : World h}
    {o : Op h} : (Sight.performed found o).Gives e ctx event ↔ o = .enqueue (.listener e ctx event) := by
  constructor
  · rintro (called | ⟨v, handed⟩)
    · cases called
    · cases handed
      rfl
  · rintro rfl
    exact .inr ⟨found, rfl⟩

structure Core (h : Host) where
  begun : World h
  path : List (Sight h)
  ended : World h
  result : ListenerResult

namespace Delivery

open Program

variable {app : Application h} {meanwhile : World h → World h → Prop} {t : Thread} {ctx : Context}
  {event dispatched : Event} {es : List (Entry h)} {is : List (Interceptor h)} {bs : List (Bracket h)}
  {w w' : World h} {path : List (Sight h)} {r : ListenerResult} {passed : List (Visit h)}
  {last : Ending h} {core : Core h}

/-- Within the brackets stand the marks of the one that skips the rest, or the listeners. -/
inductive Inside (app : Application h) (meanwhile : World h → World h → Prop) (t : Thread)
    (dispatched : Event) (es : List (Entry h)) : Ending h → Core h → Prop where
  | skipped {v : Visit h} {r : ListenerResult} {begun ended : World h}
      (marks : ended.marks t = begun.marks t ++ [v.before, v.after]) :
      Inside app meanwhile t dispatched es (.skipped v r) ⟨begun, [], ended, r⟩
  | listeners {ctx : Context} {event : Event} {begun ended : World h} {path : List (Sight h)}
      {r : ListenerResult} (marks : begun.marks t <+: ended.marks t)
      (ran : (callListeners dispatched ctx event es).Shows app meanwhile t begun path ended r) :
      Inside app meanwhile t dispatched es (.listeners ctx event) ⟨begun, path, ended, r⟩

/-- A run of a chain around its core. -/
structure Nested (passed : List (Visit h)) (last : Ending h) (t : Thread) (core : Core h)
    (w : World h) (path : List (Sight h)) (w' : World h) (r : ListenerResult) : Prop where
  before : core.begun.marks t = w.marks t ++ passed.map Visit.before
  after : w'.marks t = core.ended.marks t ++ (passed.map Visit.after).reverse
  result : r = passed.foldr Visit.map core.result
  path : ∃ calls, path = calls ++ core.path ∧ calls.map Sight.given? =
    (passed.map Visit.given ++ last.given).map some

/-- One more bracket around the rest of the chain. -/
theorem Nested.around {v : Visit h} {i : Interceptor h} {n : Next h} {w₁ w₂ : World h}
    {chained : List (Sight h)} (nested : Nested passed last t core w₁ chained w₂ r)
    (before : w₁.marks t = w.marks t ++ [v.before]) (after : w'.marks t = w₂.marks t ++ [v.after]) :
    Nested (v :: passed) last t core w (.passed i n v.ctx v.event :: chained) w' (v.map r) := by
  obtain ⟨calls, path, given⟩ := nested.path
  constructor
  case before =>
    rw [nested.before, before, List.append_assoc]
    rfl
  case after => rw [after, nested.after, List.append_assoc, List.map_cons, List.reverse_cons]
  case result =>
    rw [nested.result]
    rfl
  case path =>
    refine ⟨.passed i n v.ctx v.event :: calls, by rw [path]; rfl, ?_⟩
    rw [List.map_cons, given]
    rfl

/-- A chain of brackets around the listeners. -/
theorem proceed_nested (quiet : ∀ v v' : World h, meanwhile v v' → v'.marks t = v.marks t)
    (described : List.Forall₂ (Bracket.Describes app meanwhile t) bs is)
    (ran : (proceed ⟨is, es, dispatched⟩ ctx event).Shows app meanwhile t w path w' r) :
    ∃ passed last core, Descent bs ctx event passed last ∧
      Inside app meanwhile t dispatched es last core ∧ Nested passed last t core w path w' r := by
  induction described generalizing ctx event w path w' r with
  | nil =>
    obtain ⟨steps, own⟩ := ran.runs
    refine ⟨[], _, ⟨w, path, w', r⟩, .listeners, .listeners (own.marks_prefix quiet) ran, ?_⟩
    exact ⟨(List.append_nil _).symm, (List.append_nil _).symm, rfl, [], rfl, rfl⟩
  | @cons b i bs is describes _ ih =>
    have ran : (Program.call (.interceptor i ⟨is, es, dispatched⟩ ctx event) .done).Shows app
      meanwhile t w path w' r := ran
    cases ran with
    | finish verdict rest =>
      obtain ⟨rfl, rfl, rfl⟩ := shows_done_iff.1 rest
      obtain ⟨_, marks, rfl, may⟩ := (describes ctx event w).1 _ _ _ verdict
      refine ⟨[], _, ⟨w, [], w', r⟩, .skip may, .skipped marks, ?_⟩
      exact ⟨(List.append_nil _).symm, (List.append_nil _).symm, rfl, _, (List.append_nil _).symm, rfl⟩
    | proceed verdict chain look rest =>
      obtain ⟨rfl, rfl, rfl⟩ := shows_done_iff.1 rest
      obtain ⟨_, before, rfl, may, looks⟩ := (describes ctx event w).1 _ _ _ verdict
      obtain ⟨_, after, rfl, rfl⟩ := (looks _ _).1 _ _ _ look
      obtain ⟨passed, last, core, descent, inside, nested⟩ := ih chain
      rw [List.append_nil]
      exact ⟨_, last, core, .go may descent, inside, nested.around (v := ⟨b, ctx, event⟩) before after⟩

/-- A chain of brackets comes to its end when the listeners do, if it gets to them. -/
theorem exists_proceed_nested (described : List.Forall₂ (Bracket.Describes app meanwhile t) bs is)
    (returns : ∀ passed c ev, Descent bs ctx event passed (.listeners c ev) → ∀ v, ∃ steps v' r,
      (callListeners dispatched c ev es).Runs app meanwhile t v steps v' r) (w : World h) :
    ∃ path w' r, (proceed ⟨is, es, dispatched⟩ ctx event).Shows app meanwhile t w path w' r := by
  induction described generalizing ctx event w with
  | nil =>
    obtain ⟨steps, w', r, ran⟩ := returns [] ctx event .listeners w
    obtain ⟨path, ran⟩ := ran.shows
    exact ⟨path, w', r, ran⟩
  | @cons b i bs is describes _ ih =>
    obtain ⟨first, w₁, v, verdict⟩ := (describes ctx event w).2
    obtain ⟨_, -, allows⟩ := (describes ctx event w).1 _ _ _ verdict
    cases v with
    | finish r => exact ⟨_, w₁, r, .finish verdict (.done r w₁)⟩
    | proceed ctx' event' look =>
      obtain ⟨-, may, looks⟩ := allows
      obtain ⟨chained, w₂, r, chain⟩ :=
        ih (fun passed c ev descent => returns _ c ev (.go may descent)) w₁
      obtain ⟨last, w', r', ran⟩ := (looks r w₂).2
      exact ⟨_, w', r', .proceed verdict chain ran (.done r' w')⟩

/-- An entry's listener gets this context, and the event that was dispatched when it is async. -/
def Suited (es : List (Entry h)) (ctx : Context) (dispatched event : Event) (e : Entry h)
    (c : Context) (ev : Event) : Prop :=
  e ∈ es ∧ c = ctx ∧ ev = if e.options.asynchronous then dispatched else event

theorem callListeners_suited {rest : List (Entry h)} (sub : rest ⊆ es) :
    (callListeners dispatched ctx event rest).Keeps
      (.only (fun o => ∀ e c ev, o = .enqueue (.listener e c ev) →
          Suited es ctx dispatched event e c ev)
        fun call => ∃ e c ev, call = .listener e c ev ∧ Suited es ctx dispatched event e c ev) ()
      fun _ _ => True := by
  induction rest with
  | nil => trivial
  | cons e rest ih =>
    have go := ih fun x hx => sub (List.mem_cons_of_mem e hx)
    have he : e ∈ es := sub List.mem_cons_self
    refine ⟨fun _ _ _ => nofun, fun granted _ => ?_⟩
    simp only [done_bind]
    split
    · split
      · next asynchronous =>
        have own : Suited es ctx dispatched event e ctx dispatched :=
          ⟨he, rfl, (if_pos asynchronous).symm⟩
        have spawned : RunsListeners [e] ctx dispatched dispatched (spawnListener ctx e dispatched) :=
          spawnListener_runsListeners (List.mem_singleton_self e)
        apply keeps_bind.2
        refine keeps_mono (keeps_only_mono spawned ?_ ?_) fun _ _ _ => go
        · rintro o step e' c ev rfl
          cases step with
          | enqueue listed =>
            rw [List.mem_singleton.1 listed]
            exact own
        · rintro call given
          cases given with
          | own listed => exact ⟨_, _, _, rfl, List.mem_singleton.1 listed ▸ own⟩
          | forced listed => exact ⟨_, _, _, rfl, List.mem_singleton.1 listed ▸ own⟩
      · next inline =>
        refine ⟨⟨e, ctx, event, rfl, he, rfl, (if_neg inline).symm⟩, fun _ _ r => ?_⟩
        cases r with
        | ok u => exact go
        | error e => trivial
    · exact go

/-- What the walk along some entries gives their listeners. -/
theorem suited_of_gives {e : Entry h} {c : Context} {ev : Event} {s : Sight h}
    (ran : (callListeners dispatched ctx event es).Shows app meanwhile t w path w' r) (hs : s ∈ path)
    (gives : s.Gives e c ev) : Suited es ctx dispatched event e c ev := by
  have within := ran.within (callListeners_suited (List.Subset.refl es))
    (fun i n c ev ⟨_, _, _, same, _⟩ => nomatch same) s hs
  rcases gives with called | ⟨found, handed⟩
  · rw [called] at within
    obtain ⟨e', c', ev', same, suited⟩ := within
    cases same
    exact suited
  · rw [handed] at within
    exact within e c ev rfl

/-- Interceptors are called by a chain, and not by the walk along its listeners. -/
theorem given?_of_walk {s : Sight h}
    (ran : (callListeners dispatched ctx event es).Shows app meanwhile t w path w' r)
    (hs : s ∈ path) : s.given? = none := by
  have within := ran.within (callListeners_runsListeners (List.Subset.refl es))
    (fun _ _ _ _ call => nomatch call) s hs
  cases s with
  | performed v o => rfl
  | heard e ctx event r => rfl
  | passed i n ctx event => cases within
  | ended i n ctx event => cases within

theorem Inside.given? (inside : Inside app meanwhile t dispatched es last core) :
    ∀ s ∈ core.path, s.given? = none := by
  cases inside with
  | skipped marks => exact fun s hs => absurd hs List.not_mem_nil
  | listeners marks ran => exact fun s hs => given?_of_walk ran hs

theorem called_of_given? {s : Sight h} {x : Context × Event} (given : s.given? = some x) :
    ∃ i n ctx event, s.footstep = .called (.interceptor i n ctx event) := by
  cases s with
  | performed v o => cases given
  | heard e ctx event r => cases given
  | passed i n ctx event => exact ⟨i, n, ctx, event, rfl⟩
  | ended i n ctx event => exact ⟨i, n, ctx, event, rfl⟩

theorem sweep_marks (quiet : ∀ v v' : World h, meanwhile v v' → v'.marks t = v.marks t)
    {answer : DispatchResult} (ran : (sweep event es r).Shows app meanwhile t w path w' answer) :
    w'.marks t = w.marks t := by
  obtain ⟨-, w₁, rest, others, rfl, ran₁⟩ := shows_op_bind_iff.1 ran
  have marks : w₁.marks t = w.marks t := quiet _ _ others
  split at ran₁
  · obtain ⟨-, w₂, rest, others', rfl, ran₂⟩ := shows_op_bind_iff.1 ran₁
    obtain ⟨rfl, rfl, rfl⟩ := shows_done_iff.1 ran₂
    exact (quiet _ _ others').trans marks
  · obtain ⟨rfl, rfl, rfl⟩ := shows_done_iff.1 ran₁
    exact marks

structure Skipped (event : Event) (t : Thread) (w : World h) (path : List (Sight h)) (w' : World h)
    (result : DispatchResult) (passed : List (Visit h)) (v : Visit h) (r : ListenerResult) :
    Prop where
  marks : w'.marks t = w.marks t ++
    (passed.map Visit.before ++ [v.before, v.after] ++ (passed.map Visit.after).reverse)
  result : result = outcome event.name (passed.foldr Visit.map r)
  given : path.filterMap Sight.given? = passed.map Visit.given ++ [v.given]
  /-- No listener is called, nor handed to the pool. -/
  silent : ∀ s ∈ path, ∀ e c ev, ¬s.Gives e c ev
  unclaimed : ∀ found e, .performed found (.claim e) ∉ path
  /-- All that it takes out it has found claimed. -/
  removed : ∀ found name ids, .performed found (.removeAll name ids) ∈ path → name = event.name ∧
    ∃ seen, .performed seen (.spent (w.registry.entries event.name)) ∈ path ∧
      ∀ i ∈ ids, i ∈ seen.registry.claimed

structure Reached (app : Application h) (meanwhile : World h → World h → Prop) (event : Event)
    (t : Thread) (w : World h) (path : List (Sight h)) (w' : World h) (result : DispatchResult)
    (passed : List (Visit h)) (c : Context) (ev : Event) (core : Core h) : Prop where
  ran : (callListeners event c ev (w.registry.entries event.name)).Shows app meanwhile t core.begun
    core.path core.ended core.result
  within : core.path <:+: path
  before : core.begun.marks t = w.marks t ++ passed.map Visit.before
  own : core.begun.marks t <+: core.ended.marks t
  after : w'.marks t = core.ended.marks t ++ (passed.map Visit.after).reverse
  result : result = outcome event.name (passed.foldr Visit.map core.result)
  given : path.filterMap Sight.given? = passed.map Visit.given
  /-- Every listener gets what the last interceptor has chosen, but async ones the event that was
  dispatched. -/
  suited : ∀ s ∈ path, ∀ e c' ev', s.Gives e c' ev' →
    Suited (w.registry.entries event.name) c event ev e c' ev'

/-- What a delivery shows that passes these interceptors and comes to this end. -/
def Bracketed (app : Application h) (meanwhile : World h → World h → Prop) (event : Event)
    (t : Thread) (w : World h) (path : List (Sight h)) (w' : World h) (result : DispatchResult)
    (passed : List (Visit h)) : Ending h → Prop
  | .skipped v r => Skipped event t w path w' result passed v r
  | .listeners c ev => ∃ core, Reached app meanwhile event t w path w' result passed c ev core

section Shown

variable {calls clearing : List (Sight h)} {xs : List (Context × Event)} {s : Sight h}
  {name : String} {found : World h}

def Clears (name : String) (es : List (Entry h)) (found : World h) (s : Sight h) : Prop :=
  ∃ v o, s = .performed v o ∧ (o = .spent es ∨ o = .removeAll name (found.registry.spent es))

theorem Clears.given? (clears : Clears name es found s) : s.given? = none := by
  obtain ⟨v, o, rfl, -⟩ := clears
  rfl

theorem Clears.not_gives (clears : Clears name es found s) {e : Entry h} {c : Context} {ev : Event} :
    ¬s.Gives e c ev := by
  obtain ⟨v, o, rfl, rfl | rfl⟩ := clears
  · exact fun gives => nomatch Sight.gives_performed_iff.1 gives
  · exact fun gives => nomatch Sight.gives_performed_iff.1 gives

theorem given_of_shown (given : calls.map Sight.given? = xs.map some)
    (within : ∀ s ∈ core.path, s.given? = none)
    (clears : ∀ s ∈ clearing, Clears name es found s) :
    (.performed w (.snapshot name) :: (calls ++ core.path ++ clearing)).filterMap Sight.given? =
      xs := by
  have called : calls.filterMap Sight.given? = xs := by
    have all : (calls.map Sight.given?).filterMap id = calls.filterMap Sight.given? :=
      List.filterMap_map
    rw [← all, given, List.filterMap_map]
    exact List.filterMap_some
  rw [List.filterMap_cons_none rfl, List.filterMap_append, List.filterMap_append, called,
    List.filterMap_eq_nil_iff.2 within, List.filterMap_eq_nil_iff.2 fun s hs => (clears s hs).given?,
    List.append_nil, List.append_nil]

/-- A step is the first one, a call of an interceptor, within the brackets, or one of the last. -/
theorem mem_shown_cases (given : calls.map Sight.given? = xs.map some)
    (clears : ∀ s ∈ clearing, Clears name es found s)
    (hs : s ∈ .performed w (.snapshot name) :: (calls ++ core.path ++ clearing)) :
    s = .performed w (.snapshot name) ∨
      (∃ i n c ev, s.footstep = .called (.interceptor i n c ev)) ∨ s ∈ core.path ∨
        Clears name es found s := by
  rcases List.mem_cons.1 hs with first | later
  · exact .inl first
  rcases List.mem_append.1 later with before | last
  · rcases List.mem_append.1 before with call | inner
    · have mem := List.mem_map_of_mem (f := Sight.given?) call
      rw [given] at mem
      obtain ⟨x, -, same⟩ := List.mem_map.1 mem
      exact .inr (.inl (called_of_given? same.symm))
    · exact .inr (.inr (.inl inner))
  · exact .inr (.inr (.inr (clears s last)))

/-- Listeners are given something within the brackets only. -/
theorem mem_core_of_gives (given : calls.map Sight.given? = xs.map some)
    (clears : ∀ s ∈ clearing, Clears name es found s)
    (hs : s ∈ .performed w (.snapshot name) :: (calls ++ core.path ++ clearing))
    {e : Entry h} {c : Context} {ev : Event} (gives : s.Gives e c ev) : s ∈ core.path := by
  rcases mem_shown_cases given clears hs with rfl | ⟨i, n, c', ev', call⟩ | inner | last
  · cases Sight.gives_performed_iff.1 gives
  · rcases gives with called | ⟨found, handed⟩
    · cases call.symm.trans called
    · cases call.symm.trans handed
  · exact inner
  · exact absurd gives last.not_gives

theorem claimed_of_mem_spent {r : Registry h} {i : Nat} (mem : i ∈ r.spent es) : i ∈ r.claimed := by
  obtain ⟨e, spent, rfl⟩ := List.mem_map.1 mem
  have claimed := (List.mem_filter.1 spent).2
  rw [Registry.isSpent, Bool.and_eq_true, List.contains_iff_mem] at claimed
  exact claimed.2

end Shown

theorem deliver_bracketed (quiet : ∀ v v' : World h, meanwhile v v' → v'.marks t = v.marks t)
    (described : List.Forall₂ (Bracket.Describes app meanwhile t) bs w.registry.interceptors)
    {result : DispatchResult}
    (ran : (deliver ctx event).Shows app meanwhile t w path w' result) :
    ∃ passed last, Descent bs ctx event passed last ∧
      Bracketed app meanwhile event t w path w' result passed last := by
  obtain ⟨w₁, walk, w₂, r, clearing, others, rfl, proceeded, swept⟩ := shows_deliver_iff.1 ran
  obtain ⟨passed, last, core, descent, inside, nested⟩ := proceed_nested quiet described proceeded
  obtain ⟨calls, rfl, given⟩ := nested.path
  obtain rfl := sweep_answer swept
  have marks := sweep_marks quiet swept
  obtain ⟨-, asked, steps⟩ := sweep_shows swept
  have clears : ∀ s ∈ clearing, Clears event.name (w.registry.entries event.name) w₂ s := by
    intro s hs
    obtain ⟨v, o, rfl, same | ⟨-, same⟩⟩ := steps s hs
    · exact ⟨v, o, rfl, .inl same⟩
    · exact ⟨v, o, rfl, .inr same⟩
  have shown := given_of_shown (w := w) given inside.given? clears
  have before : core.begun.marks t = w.marks t ++ passed.map Visit.before := by
    rw [nested.before, quiet _ _ others]
  have after : w'.marks t = core.ended.marks t ++ (passed.map Visit.after).reverse := by
    rw [marks, nested.after]
  have result := congrArg (outcome event.name) nested.result
  refine ⟨passed, last, descent, ?_⟩
  cases inside with
  | @skipped v r begun ended own =>
    constructor
    case marks =>
      rw [after, own, before]
      simp only [List.append_assoc]
    case result => exact result
    case given => exact shown
    case silent =>
      intro s hs e c ev gives
      -- Nothing stands within the brackets, and the way down and the clearing hand out nothing.
      exact absurd (mem_core_of_gives given clears hs gives) List.not_mem_nil
    case unclaimed =>
      intro found e hs
      rcases mem_shown_cases given clears hs with first | ⟨i, n, c, ev, call⟩ | inner | last
      · cases first
      · cases call
      · cases inner
      · obtain ⟨v, o, same, rfl | rfl⟩ := last <;> cases same
    case removed =>
      intro found name ids hs
      rcases mem_shown_cases given clears hs with first | ⟨i, n, c, ev, call⟩ | inner | last
      · cases first
      · cases call
      · cases inner
      · obtain ⟨v, o, same, rfl | rfl⟩ := last
        · cases same
        · cases same
          refine ⟨rfl, w₂, ?_, fun i hi => claimed_of_mem_spent hi⟩
          exact List.mem_cons_of_mem _ (List.mem_append_right _ asked)
  | @listeners c ev begun ended inner r grows called =>
    refine ⟨⟨begun, inner, ended, r⟩, called, ?_, before, grows, after, result, ?_, ?_⟩
    · exact ⟨.performed w (.snapshot event.name) :: calls, clearing, by simp⟩
    · rw [shown]
      exact List.append_nil _
    · intro s hs e c' ev' gives
      exact suited_of_gives called (mem_core_of_gives given clears hs gives) gives

/-- Interceptors nest like brackets, in the order in which they were registered, whatever other threads
do that leave no mark in the name of this one (`World.marks_answer_of_ne`).
Up to the first that skips the rest each marks that it begins; then come the listeners, if none skips it;
then each marks, from the last to the first, that it is done. The result goes through all that were
passed, likewise from the last to the first. When one skips the rest, the delivery claims nothing and
takes nothing out that it has not found claimed. What an interceptor makes of the context gets to those
after it and to all listeners, what it makes of the event to those after it and to the inline listeners.
The delivery comes to an end whenever its listeners do. -/
theorem deliver_nests {s : Course h α} (reached : s.Reachable app)
    (quiet : ∀ v v' : World h, meanwhile v v' → v'.marks t = v.marks t) (idle : ∀ v, meanwhile v v)
    (described : List.Forall₂ (Bracket.Describes app meanwhile t) bs s.intercepted) (ctx : Context)
    (event : Event) :
    (∀ path w' result, (deliver ctx event).Shows app meanwhile t s.world path w' result →
      ∃ passed last, Descent bs ctx event passed last ∧
        Bracketed app meanwhile event t s.world path w' result passed last) ∧
    ((∀ passed c ev, Descent bs ctx event passed (.listeners c ev) → ∀ v, ∃ steps v' r,
        (callListeners event c ev (s.world.registry.entries event.name)).Runs app meanwhile t v steps
          v' r) →
      ∃ path w' result, (deliver ctx event).Shows app meanwhile t s.world path w' result) := by
  rw [← reached.interceptors] at described
  refine ⟨fun path w' result ran => deliver_bracketed quiet described ran, fun returns => ?_⟩
  obtain ⟨walk, w₁, r, proceeded⟩ := exists_proceed_nested described returns s.world
  obtain ⟨_, w', swept⟩ :=
    exists_idle_sweep idle app t event w₁ (s.world.registry.entries event.name) r
  obtain ⟨last, swept, -⟩ := unrolls_iff_shows.1 swept
  exact ⟨_, w', _, shows_deliver_iff.2
    ⟨s.world, walk, w₁, r, last, idle _, rfl, proceeded, swept⟩⟩

abbrev nestHost : Host := ⟨Unit, Nat, Empty, Empty, Unit, Nat × Bool⟩

def choose (n : Nat) (ctx : Context) (event : Event) : Choice :=
  if n = 2 then .skip (.ok ()) else .go ctx event

def numbered (n : Nat) : Bracket nestHost where
  before _ _ := (n, false)
  after _ _ := (n, true)
  may ctx event c := c = choose n ctx event
  map _ _ r := if n = 1 then .error (.other "late") else r

def nest : Application nestHost where
  listen _ _ _ := return .ok ()
  intercept n ctx event := (numbered n).script (choose n) ctx event
  run e := nomatch e

def register (n : Nat) : Script nestHost Unit := Script.act (.intercept (.custom n))

def registrar : Thread × Script nestHost Unit :=
  (.main, do
    register 1
    register 2
    register 3
    let _ ← Script.ask (.subscribe "n" (.plain ()) ⟨0, false, true⟩))

def built : Course nestHost Unit := .run nest default none () [registrar] (Course.turns 0 6)

theorem second_skips_third :
    ∃ path w', (deliver .background news).Shows nest (fun v v' => v'.marks .main = v.marks .main) .main
        built.world path w' (.error (.listener "n" (.other "late"))) ∧
      w'.marks .main = [(1, false), (2, false), (2, true), (1, true)] ∧
      (built.world.registry.entries "n").map (·.options.once) = [true] ∧
      ∀ found e, .performed found (.claim e) ∉ path := by
  have quiet : ∀ v v' : World nestHost, v'.marks .main = v.marks .main →
      v'.marks .main = v.marks .main := fun _ _ same => same
  have describes : ∀ n, (numbered n).Describes nest (fun v v' => v'.marks .main = v.marks .main) .main
      (.custom n) := fun n =>
    Bracket.describes_of_script quiet (fun _ => rfl) (fun _ _ => rfl) fun _ _ => rfl
  have listed : built.intercepted = [.custom 1, .custom 2, .custom 3] := rfl
  have described : List.Forall₂ (Bracket.Describes nest (fun v v' => v'.marks .main = v.marks .main)
      .main) [numbered 1, numbered 2, numbered 3] built.intercepted :=
    listed ▸ .cons (describes 1) (.cons (describes 2) (.cons (describes 3) .nil))
  have reached : built.Reachable nest := Course.reachable_run ..
  obtain ⟨all, ends⟩ := deliver_nests reached quiet (fun _ => rfl) described .background news
  have stops : ∀ passed last, Descent [numbered 1, numbered 2, numbered 3] .background news passed
      last → passed = [⟨numbered 1, .background, news⟩] ∧
        last = .skipped ⟨numbered 2, .background, news⟩ (.ok ()) := by
    intro passed last descent
    cases descent with
    | skip first => cases first
    | go first rest =>
      cases first
      cases rest with
      | skip second =>
        cases second
        exact ⟨rfl, rfl⟩
      | go second => cases second
  obtain ⟨path, w', result, ran⟩ := ends fun passed c ev descent =>
    absurd (stops _ _ descent).2 (by simp)
  obtain ⟨passed, last, descent, shown⟩ := all _ _ _ ran
  obtain ⟨rfl, rfl⟩ := stops _ _ descent
  obtain ⟨marks, result, -, -, unclaimed, -⟩ := shown
  subst result
  have fresh : built.world.marks .main = [] := by decide +kernel
  rw [fresh] at marks
  exact ⟨path, w', ran, marks, by decide +kernel, unclaimed⟩

end Delivery
end EventDispatch
