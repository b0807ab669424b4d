import EventDispatch.Proofs.Once.Ledger

namespace EventDispatch

variable {h : Host} {α : Type}

namespace World

theorem answerHost_plain (w : World h) (t : Thread) (o : HostOp h) :
    (w.answerHost t o).2.lastId = w.lastId ∧
      (w.answerHost t o).2.registry.entries = w.registry.entries ∧
      (w.answerHost t o).2.registry.claimed = w.registry.claimed := by
  cases o with
  | register type =>
    obtain ⟨types, after⟩ := w.register_concerns t type
    rw [after]
    exact ⟨rfl, rfl, rfl⟩
  | _ => exact ⟨rfl, rfl, rfl⟩

theorem publish_plain (w : World h) (t : Thread) (ctx : Context) (m : Message) :
    (w.publish t ctx m).2.lastId = w.lastId ∧
      (w.publish t ctx m).2.registry = w.registry := by
  obtain ⟨bus, buffer, trail, after⟩ := w.publish_concerns t ctx m
  rw [after]
  exact ⟨rfl, rfl⟩

/-- Plain steps change neither the entries nor the claims. -/
theorem answer_plain (w : World h) (t : Thread) {o : Op h} (ho : o.IsPlain) :
    (w.answer t o).2.lastId = w.lastId ∧
      (w.answer t o).2.registry.entries = w.registry.entries ∧
      (w.answer t o).2.registry.claimed = w.registry.claimed := by
  cases o with
  | host o => exact w.answerHost_plain t o
  | publish ctx m =>
    obtain ⟨lastId, registry⟩ := w.publish_plain t ctx m
    exact ⟨lastId, congrArg _ registry, congrArg _ registry⟩
  | _ => first | exact ho.elim | exact ⟨rfl, rfl, rfl⟩

/-- The ids that are answered as spent are those of entries that were asked about. -/
theorem answers_claiming (w : World h) (t : Thread) (o : Op h) :
    Standing.claiming.Answers o (w.answer t o).1 := by
  cases o with
  | spent es =>
    intro i hi
    obtain ⟨e, he, rfl⟩ := List.mem_map.1 hi
    exact ⟨e, (List.mem_filter.1 he).1, rfl⟩
  | _ => trivial

end World

namespace Account

/-- All that a turn of thread `a` can change, and when it can. -/
inductive Deed (a : Actor) (b : Account h) : Account h → Prop where
  | plain {c : Account h} (ledger : c.ledger = b.ledger) (lastId : c.lastId = b.lastId)
      (entries : c.registry.entries = b.registry.entries)
      (claimed : c.registry.claimed = b.registry.claimed) : Deed a b c
  | rest (free : b.phase a = .free) : Deed a b (b.put a .rest)
  | entrust (e : Entry h) (free : b.phase a = .free) : Deed a b (b.move a (.entrusted e))
  | begin (e : Entry h) (entrusted : b.phase a = .entrusted e) : Deed a b (b.move a .free)
  | takeId (free : b.phase a = .free) :
      Deed a b { b.move a (.issued (b.lastId + 1)) with lastId := b.lastId + 1 }
  | insert (name : String) (e : Entry h) (issued : b.phase a = .issued e.id) :
      Deed a b { b.move a .free with
        ledger.subscribed := (name, e) :: b.ledger.subscribed
        registry := b.registry.insert name e }
  | retire (id : Nat) (free : b.phase a = .free) :
      Deed a b { b.move a (.retiring id) with
        ledger.unsubscribed := id :: b.ledger.unsubscribed }
  | drop (name : String) (id : Nat) (retiring : b.phase a = .retiring id) :
      Deed a b { b.move a .free with registry := b.registry.removeAll name [id] }
  | snapshot (name : String) (free : b.phase a = .free) :
      Deed a b (b.put a { b.stand a with
        depth := (b.stand a).depth + 1
        shown := (b.registry.entries name).map (name, ·) ++ (b.stand a).shown })
  | claim (e : Entry h) (once : e.options.once) (unclaimed : e.id ∉ b.registry.claimed)
      (free : b.phase a = .free) (inside : 0 < (b.stand a).depth) (known : (b.stand a).Knows e) :
      Deed a b { b.move a (.holds e) with
        registry.claimed := e.id :: b.registry.claimed }
  | release (e : Entry h) (holds : b.phase a = .holds e) :
      Deed a b { b.move a .free with
        registry.claimed := b.registry.claimed.filter (· != e.id) }
  | accept (e : Entry h) (may : (b.stand a).MayRun e) :
      Deed a b { b.move a .free with ledger.accepted := e.id :: b.ledger.accepted }
  | invoke (e : Entry h) (may : (b.stand a).MayRun e) :
      Deed a b { b.move a .free with ledger.invoked := e.id :: b.ledger.invoked }
  | leave (free : b.phase a = .free) : Deed a b (b.put a (b.stand a).leave)
  | find (es : List (Entry h)) (ids : List Nat) (spent : ids = b.registry.spent es)
      (free : b.phase a = .free) (inside : 0 < (b.stand a).depth)
      (known : ∀ e ∈ es, (b.stand a).Knows e) :
      Deed a b { b.move a (.clearing ids) with
        ledger.foundSpent := ids ++ b.ledger.foundSpent }
  | clear (name : String) (ids : List Nat) (clearing : b.phase a = .clearing ids)
      (known : ∀ i ∈ ids, ∃ e, (name, e) ∈ (b.stand a).shown ∧ e.id = i) :
      Deed a b { b.put a (b.stand a).leave with registry := b.registry.removeAll name ids }

variable {a : Actor} {b : Account h}

/-- A turn that leaves all of this as it was. -/
theorem Deed.same : Deed a b b := .plain rfl rfl rfl rfl

theorem deed_of_remove (name : String) (ids : List Nat)
    (may : (b.stand a).MayPerform (.removeAll name ids)) :
    Deed a b ⟨b.ledger.note a (.performed (.removeAll name ids) ()),
      b.registry.removeAll name ids, b.lastId⟩ := by
  rcases may with ⟨clearing, known⟩ | ⟨id, retiring, rfl⟩
  · -- The last step of a delivery, which leaves it.
    have left : (b.ledger.stand a).after (.performed (.removeAll name ids) ()) =
        (b.stand a).leave := by
      simp only [Standing.after, show (b.ledger.stand a).phase = _ from clearing]
      rfl
    simp only [Ledger.note, left]
    exact .clear name ids clearing known
  · have back : (b.ledger.stand a).after (.performed (.removeAll name [id]) ()) =
        (b.stand a).at' .free := by
      simp only [Standing.after, show (b.ledger.stand a).phase = _ from retiring]
      rfl
    simp only [Ledger.note, back]
    exact .drop name id retiring

theorem deed_of_retire (id : Nat) (granted : Bool) (free : b.phase a = .free) :
    Deed a b { b with ledger := b.ledger.note a (.performed (.retire id) granted) } := by
  cases granted with
  | true => exact .retire id free
  | false =>
    simp only [Ledger.note, Standing.after, Bool.false_eq_true, if_false, Function.update_eq_self]
    exact .same

theorem deed_of_claim {e : Entry h} (free : b.phase a = .free) (inside : 0 < (b.stand a).depth)
    (known : (b.stand a).Knows e) :
    Deed a b ⟨b.ledger.note a (.performed (.claim e) (b.registry.claim e).1),
      (b.registry.claim e).2, b.lastId⟩ := by
  by_cases once : e.options.once
  · by_cases claimed : b.registry.claimed.contains e.id
    · -- Somebody holds the claim or held it when the listener ran, and all stays as it was.
      have refused : b.registry.claim e = (false, b.registry) := by
        simp only [Registry.claim, once, claimed, Bool.not_true, Bool.false_eq_true, if_false,
          if_true]
      simp only [refused, Ledger.note, Standing.after, Bool.and_false, Bool.false_eq_true, if_false,
        Function.update_eq_self]
      exact .same
    · have granted : b.registry.claim e =
          (true, { b.registry with claimed := e.id :: b.registry.claimed }) := by
        simp only [Registry.claim, once, claimed, Bool.not_true, Bool.false_eq_true, if_false]
      simp only [granted, Ledger.note, Standing.after, once, Bool.and_self, if_true]
      exact .claim e once (by simpa using claimed) free inside known
  · -- An entry that may run often is granted, and nothing is written down.
    have granted : b.registry.claim e = (true, b.registry) := by
      simp only [Registry.claim, once, Bool.not_false, if_true]
    simp only [granted, Ledger.note, Standing.after, once, Bool.false_and, Bool.false_eq_true,
      if_false, Function.update_eq_self]
    exact .same

theorem deed_of_release {e : Entry h} (may : (b.stand a).MayRun e) :
    Deed a b ⟨b.ledger.note a (.performed (.release e) ()), b.registry.release e, b.lastId⟩ := by
  by_cases once : e.options.once
  · simp only [Registry.release, once, if_true]
    exact .release e (may.holds once)
  · have same : (b.ledger.stand a).at' .free = b.ledger.stand a :=
      Standing.at_free (may.free once)
    simp only [Registry.release, once, Ledger.note, Standing.after, same, Function.update_eq_self]
    exact .same

theorem deed_of_spent {es : List (Entry h)} (free : b.phase a = .free)
    (inside : 0 < (b.stand a).depth) (known : ∀ e ∈ es, (b.stand a).Knows e) :
    Deed a b { b with
      ledger := b.ledger.note a (.performed (.spent es) (b.registry.spent es)) } := by
  cases spent : b.registry.spent es with
  | nil => exact .leave free
  | cons i rest => exact .find es (i :: rest) spent.symm free inside known

theorem deed_of_enqueue {e : Entry h} {ctx : Context} {event : Event} (r : Except PoolError Unit)
    (may : (b.stand a).MayRun e) :
    Deed a b { b with
      ledger := b.ledger.note a (.performed (.enqueue (.listener e ctx event)) r) } := by
  cases r with
  | ok u => exact .accept e may
  | error e =>
    simp only [Ledger.note, Standing.after, Function.update_eq_self]
    exact .same

/-- What a step on the shared state that the protocol allows comes to. -/
theorem deed_of_perform {w : World h} (t : Thread) {o : Op h}
    (registry : b.registry = w.registry) (lastId : b.lastId = w.lastId)
    (may : (b.stand a).MayPerform o) :
    Deed a b ⟨b.ledger.note a (.performed o (w.answer t o).1), (w.answer t o).2.registry,
      (w.answer t o).2.lastId⟩ := by
  obtain ⟨l, r, n⟩ := b
  subst registry lastId
  by_cases plain : o.IsPlain
  · obtain ⟨lastId, entries, claimed⟩ := w.answer_plain t plain
    exact .plain (l.note_plain a plain _) lastId entries claimed
  cases o with
  | takeId => exact .takeId may
  | insert name e => exact .insert name e may
  | removeAll name ids => exact deed_of_remove name ids may
  | retire id => exact deed_of_retire id _ may
  | snapshot name => exact .snapshot name may
  | claim e => exact deed_of_claim may.1 may.2.1 may.2.2
  | release e => exact deed_of_release may
  | spent es => exact deed_of_spent may.1 may.2.1 may.2.2
  | enqueue job =>
    cases job with
    | listener e ctx event =>
      exact deed_of_enqueue _ may
    | _ => exact absurd trivial plain
  | _ => exact absurd trivial plain

theorem deed_of_call {c : Call h} (may : (b.stand a).MayCall c) :
    Deed a b { b with ledger := b.ledger.note a (.called c) } := by
  cases c with
  | listener e ctx event =>
    by_cases entrusted : b.phase a = .entrusted e
    · -- The job was noted when the pool accepted it.
      have none : (Occurrence.called (.listener e ctx event)).invoked (b.ledger.stand a).phase =
          [] := by
        simp only [Occurrence.invoked, show (b.ledger.stand a).phase = _ from entrusted]
      simp only [Ledger.note, none]
      exact .begin e entrusted
    · have run : (b.stand a).MayRun e := may.resolve_left entrusted
      have one : (Occurrence.called (.listener e ctx event)).invoked (b.ledger.stand a).phase =
          [e.id] := by
        by_cases once : e.options.once
        · simp only [Occurrence.invoked, show (b.ledger.stand a).phase = _ from run.holds once]
        · simp only [Occurrence.invoked, show (b.ledger.stand a).phase = _ from run.free once]
      simp only [Ledger.note, one]
      exact .invoke e run
  | interceptor i next ctx event =>
    simp only [Ledger.note, Standing.after, Function.update_eq_self]
    exact .same

theorem deed_of_take (job : Job h) (free : b.phase a = .free) :
    Deed a b { b with ledger := b.ledger.note a (.took job) } := by
  cases job with
  | listener e ctx event => exact .entrust e free
  | dispatch ctx event =>
    simp only [Ledger.note, Standing.after, Function.update_eq_self]
    exact .same
  | publish ctx m =>
    simp only [Ledger.note, Standing.after, Function.update_eq_self]
    exact .same

end Account

/-- A thread holds nothing when its work is finished. -/
theorem Program.free_of_over {β : Type} {p : Program h β} {s : Standing h}
    (keeps : p.Keeps Standing.claiming s (Standing.claiming.Returns .rest)) (finished : p.IsOver) :
    s.phase = .free := by
  cases p with
  | done b => exact keeps.phase
  | panic e => exact keeps
  | perform o next => exact finished.elim
  | call c next => exact finished.elim

namespace Course

open Standing

variable {app : Application h} {s : Course h α} {a : Actor} {m : Machine h α} {o : Occurrence h}

theorem deed_of_turned (keeps : s.machine.Keeps claiming s.account.stand)
    (turned : Machine.Turned app s.machine a m o) :
    s.account.Deed a (account ⟨m, (a, o) :: s.history⟩) := by
  cases turned with
  | @performed β t o next before after world =>
    have deed := Account.deed_of_perform (b := s.account) (w := s.world) t rfl rfl
      ((keeps a).1 _ before).1
    simp only [account, Course.world, world]
    exact deed
  | @called β t c next before after world =>
    have deed := Account.deed_of_call (b := s.account) ((keeps a).1 _ before).1
    simp only [account, Course.world, world]
    exact deed
  | @took n job pool actor before take after world =>
    have free : s.account.phase a = .free := congrArg Standing.phase ((keeps a).2 before)
    have deed := Account.deed_of_take (b := s.account) job free
    simp only [account, Course.world, world]
    exact deed
  | @ended r before finished after world =>
    have same : m.world.registry = s.world.registry ∧ m.world.lastId = s.world.lastId := by
      obtain ⟨pool, trail, returned, after⟩ := Machine.ended_concerns world
      rw [after]
      exact ⟨rfl, rfl⟩
    have free : s.account.phase a = .free := Program.free_of_over ((keeps a).1 r before) finished
    have deed := Account.Deed.rest free
    simp only [account, Course.world, same.1, same.2]
    exact deed

def Orderly (s : Course h α) : Prop := s.machine.Keeps claiming s.account.stand

theorem orderly_start (app : Application h) (c : Config) (publisher : Option Publisher)
    (host : h.State) (scripts : List (Thread × Script h α)) :
    Orderly ⟨.launch (.start c publisher host) scripts, []⟩ :=
  Machine.keeps_launch (claiming_upheld app) _ scripts

theorem Orderly.turned (orderly : s.Orderly) (turned : Machine.Turned app s.machine a m o)
    (others : s.machine.Others app a m) : Orderly ⟨m, (a, o) :: s.history⟩ :=
  Machine.Keeps.turn (claiming_upheld app) orderly turned others fun t o =>
    s.world.answers_claiming t o

/-- What holds of a new dispatcher, and is kept by every turn that keeps to the protocol, holds
throughout. Room in the pool does not matter. -/
theorem Reachable.orderly_induct {I : Course h α → Prop}
    (start : ∀ c publisher host scripts, I ⟨.launch (.start c publisher host) scripts, []⟩)
    (step : ∀ (s : Course h α) a m o, s.Orderly → Machine.Turned app s.machine a m o → I s →
      I ⟨m, (a, o) :: s.history⟩)
    (refit : ∀ (s : Course h α) pool, I s → I { s with machine.world.pool := pool })
    (reached : s.Reachable app) : s.Orderly ∧ I s := by
  refine Reachable.induct (I := fun s => s.Orderly ∧ I s) ?_ ?_ reached
  · intro c publisher host scripts
    exact ⟨orderly_start app c publisher host scripts, start c publisher host scripts⟩
  · rintro s mv ⟨orderly, holds⟩
    cases mv with
    | turn a =>
      rcases move_turn (a := a) with same | ⟨m, o, moved, turned, others⟩
      · rw [same]
        exact ⟨orderly, holds⟩
      · rw [moved]
        exact ⟨orderly.turned turned others, step s a m o orderly turned holds⟩
    | refit capacity closed isSealed => exact ⟨orderly, refit s _ holds⟩

/-- What holds of an empty account, and is kept by every deed, holds throughout. -/
theorem Reachable.account_induct {I : Account h → Prop} (start : I ⟨.empty, .empty, 0⟩)
    (step : ∀ a b c, b.Deed a c → I b → I c) (reached : s.Reachable app) : I s.account := by
  refine (reached.orderly_induct (I := fun s => I s.account) ?_ ?_ ?_).2
  · intro c publisher host scripts
    exact start
  · intro s a m o orderly turned holds
    exact step a _ _ (deed_of_turned orderly turned) holds
  · intro s pool holds
    exact holds

end Course
end EventDispatch
