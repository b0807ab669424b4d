import EventDispatch.Proofs.Delivery.Chained
import EventDispatch.Proofs.Delivery.Steps
import EventDispatch.Proofs.Delivery.Walk
import EventDispatch.Proofs.Once.Honoured
import EventDispatch.Proofs.Once.Listed

namespace EventDispatch

variable {h : Host} {α : Type}

namespace Sight

def interceptor? : Sight h → Option (Interceptor h)
  | .passed i _ _ _ => some i
  | .ended i _ _ _ => some i
  | _ => none

def EndsChain : Sight h → Prop
  | .ended _ _ _ _ => True
  | _ => False

def interceptors (path : List (Sight h)) : List (Interceptor h) := path.filterMap interceptor?

end Sight

namespace Delivery

open Program Sight

variable {app : Application h} {meanwhile : World h → World h → Prop} {t : Thread} {ctx : Context}
  {event dispatched : Event} {e : Entry h} {es : List (Entry h)} {w w' : World h}
  {path : List (Sight h)}

structure Chain (is : List (Interceptor h)) (es : List (Entry h)) (dispatched : Event)
    (path : List (Sight h)) : Prop where
  called : interceptors path <+: is
  unended : (∀ s ∈ path, ¬s.EndsChain) → interceptors path = is ∧ Walk es path
  steps : ∀ v o, .performed v o ∈ path → ∃ ctx, ListenerStep es ctx dispatched o

theorem proceed_chain {is : List (Interceptor h)} {r : ListenerResult} (ids : (es.map (·.id)).Nodup)
    (ran : (proceed ⟨is, es, dispatched⟩ ctx event).Shows app meanwhile t w path w' r) :
    Chain is es dispatched path := by
  induction is generalizing ctx event w path w' r with
  | nil =>
    have ran : (callListeners dispatched ctx event es).Shows app meanwhile t w path w' r := ran
    have within := ran.within (callListeners_runsListeners (List.Subset.refl es)) fun _ _ _ _ call => by
      cases call
    -- Steps of the listeners show no interceptor.
    have none : interceptors path = [] := by
      apply List.filterMap_eq_nil_iff.2
      intro s hs
      have own := within s hs
      cases s with
      | performed v o => rfl
      | heard e ctx event r => rfl
      | passed i n ctx event => cases own
      | ended i n ctx event => cases own
    refine ⟨none ▸ List.prefix_refl _, fun _ => ⟨none, callListeners_walk ids ran⟩, ?_⟩
    exact fun v o step => ⟨ctx, within _ step⟩
  | cons i is ih =>
    have ran : (Program.call (.interceptor i ⟨is, es, dispatched⟩ ctx event) .done).Shows app
      meanwhile t w path w' r := ran
    cases ran with
    | finish verdict rest =>
      obtain ⟨rfl, -, -⟩ := shows_done_iff.1 rest
      refine ⟨(List.prefix_cons_inj i).2 List.nil_prefix, fun unended => ?_, fun v o step => ?_⟩
      · exact absurd trivial (unended _ List.mem_cons_self)
      · cases List.mem_singleton.1 step
    | proceed verdict chain look rest =>
      obtain ⟨rfl, -, -⟩ := shows_done_iff.1 rest
      have later := ih chain
      rw [List.append_nil]
      constructor
      · exact (List.prefix_cons_inj i).2 later.called
      · intro unended
        obtain ⟨called, walk⟩ := later.unended (List.forall_mem_cons.1 unended).2
        exact ⟨congrArg (i :: ·) called, walk.of_eq rfl rfl rfl⟩
      · intro v o step
        rcases List.mem_cons.1 step with own | inside
        · cases own
        · exact later.steps v o inside

/-- The interceptors stay, nothing comes back or changes its place, and what goes was registered under
this name and is as `out` says. -/
structure Mild (name : String) (out : Entry h → Prop) (r r' : Registry h) : Prop where
  interceptors : r'.interceptors = r.interceptors
  kept : ∀ n, (r'.entries n).Sublist (r.entries n)
  taken : ∀ n, ∀ e ∈ r.entries n, e ∉ r'.entries n → n = name ∧ out e

theorem Mild.of_same {name : String} {out : Entry h → Prop} {r r' : Registry h}
    (listeners : r'.listeners = r.listeners) (interceptors : r'.interceptors = r.interceptors) :
    Mild name out r r' where
  interceptors := interceptors
  kept _ := by
    rw [Registry.entries_congr listeners]
  taken _ e he gone := by
    rw [Registry.entries_congr listeners] at gone
    exact absurd he gone

theorem ListenerStep.mild {o : Op h} (step : ListenerStep es ctx dispatched o) (v : World h)
    (name : String) (out : Entry h → Prop) : Mild name out v.registry (v.answer t o).2.registry := by
  cases step with
  | claim listed => exact .of_same (v.registry.listeners_claim _) (v.registry.interceptors_claim _)
  | release listed =>
    exact .of_same (v.registry.listeners_release _) (v.registry.interceptors_release _)
  | _ => exact .of_same rfl rfl

theorem mild_removeAll {r : Registry h} {name : String} {gone : List Nat} {out : Entry h → Prop}
    (sound : ∀ e ∈ r.entries name, e.id ∈ gone → out e) :
    Mild name out r (r.removeAll name gone) where
  interceptors := rfl
  kept n := by
    rw [Registry.removeAll, Registry.entries_put]
    split
    · next same =>
      rw [same]
      exact List.filter_sublist
    · exact List.Sublist.refl _
  taken n e he left := by
    rw [Registry.mem_entries_removeAll, not_and, Classical.not_imp] at left
    obtain ⟨rfl, mem⟩ := left he
    exact ⟨rfl, sound e he (Classical.not_not.1 mem)⟩

/-- What a delivery that began in state `w` shows when it is over. -/
structure Isolated (event : Event) (t : Thread) (w : World h) (path : List (Sight h)) : Prop where
  /-- It calls no interceptor that was not there, and in order. -/
  intercepted : interceptors path <+: w.registry.interceptors
  /-- It calls them all and handles the entries that were there, if no interceptor ends the chain. -/
  unended : (∀ s ∈ path, ¬s.EndsChain) → interceptors path = w.registry.interceptors ∧
    Walk (w.registry.entries event.name) path
  /-- What its own steps take out of the registry are entries of its snapshot that it found spent. -/
  steps : ∀ v o, .performed v o ∈ path → Mild event.name (fun e =>
    e ∈ w.registry.entries event.name ∧ ∃ found,
      .performed found (.spent (w.registry.entries event.name)) ∈ path ∧
        found.registry.isSpent e = true) v.registry (v.answer t o).2.registry

/-- A delivery runs the chain and the entries of the snapshot that it begins with, and clears up. -/
theorem shows_deliver_iff {answer : DispatchResult} :
    (deliver ctx event).Shows app meanwhile t w path w' answer ↔
      ∃ w₁ walk w₂ r last, meanwhile w w₁ ∧
        path = .performed w (.snapshot event.name) :: (walk ++ last) ∧
        (proceed ⟨w.registry.interceptors, w.registry.entries event.name, event⟩ ctx event).Shows app
          meanwhile t w₁ walk w₂ r ∧
        (sweep event (w.registry.entries event.name) r).Shows app meanwhile t w₂ last w' answer := by
  rw [deliver_eq]
  constructor
  · intro ran
    obtain ⟨-, w₁, rest, others, rfl, ran₁⟩ := shows_op_bind_iff.1 ran
    obtain ⟨walk, w₂, r, last, rfl, proceeded, swept⟩ := ran₁.of_bind
    exact ⟨w₁, walk, w₂, r, last, others, rfl, proceeded, swept⟩
  · rintro ⟨w₁, walk, w₂, r, last, others, rfl, proceeded, swept⟩
    exact shows_op_bind_iff.2 ⟨rfl, w₁, _, others, rfl, proceeded.bind swept⟩

theorem sweep_shows {r : ListenerResult} {answer : DispatchResult}
    (ran : (sweep event es r).Shows app meanwhile t w path w' answer) :
    Aside path ∧ .performed w (.spent es) ∈ path ∧
      ∀ s ∈ path, ∃ v o, s = .performed v o ∧
        (o = .spent es ∨ meanwhile w v ∧ o = .removeAll event.name (w.registry.spent es)) := by
  obtain ⟨-, w₁, rest, others, rfl, ran₁⟩ := shows_op_bind_iff.1 ran
  split at ran₁
  · obtain ⟨-, w₂, rest, -, rfl, ran₂⟩ := shows_op_bind_iff.1 ran₁
    obtain ⟨rfl, -, -⟩ := shows_done_iff.1 ran₂
    refine ⟨⟨rfl, rfl, rfl⟩, List.mem_cons_self, List.forall_mem_cons.2 ⟨⟨w, _, rfl, .inl rfl⟩, ?_⟩⟩
    exact List.forall_mem_singleton.2 ⟨w₁, _, rfl, .inr ⟨others, rfl⟩⟩
  · obtain ⟨rfl, -, -⟩ := shows_done_iff.1 ran₁
    exact ⟨⟨rfl, rfl, rfl⟩, List.mem_cons_self,
      List.forall_mem_singleton.2 ⟨w, _, rfl, .inl rfl⟩⟩

theorem sweep_answer {r : ListenerResult} {answer : DispatchResult}
    (ran : (sweep event es r).Shows app meanwhile t w path w' answer) :
    answer = outcome event.name r := by
  obtain ⟨-, w₁, rest, -, rfl, ran₁⟩ := shows_op_bind_iff.1 ran
  split at ran₁
  · obtain ⟨-, w₂, rest, -, rfl, ran₂⟩ := shows_op_bind_iff.1 ran₁
    exact (shows_done_iff.1 ran₂).2.2
  · exact (shows_done_iff.1 ran₁).2.2

/-- While the chain runs, nothing is registered under an id of the snapshot. -/
theorem proceed_honours {ids : List Nat} {s : Snapshot h} {r : ListenerResult}
    (given : ∀ i ∈ ids, i ≤ w.lastId)
    (ran : (proceed ⟨s.interceptors, s.entries, event⟩ ctx event).Shows app (World.Honours ids) t w
      path w' r) : w.Honours ids w' := by
  obtain ⟨steps, ran⟩ := ran.runs
  let began : Standing h := Standing.rest.after (.performed (.snapshot event.name) s)
  have known : ∀ e ∈ s.entries, began.Knows e :=
    fun e he => Standing.knows_after_snapshot .rest event.name s he
  have keeps : (proceed ⟨s.interceptors, s.entries, event⟩ ctx event).Keeps Standing.claiming began
    (Standing.claiming.Returns began) := keeps_proceed ctx event rfl Nat.one_pos known
  exact (ran.honours keeps (.of_free given rfl)).1

theorem isolated_of_ids {answer : DispatchResult}
    (nodup : ((w.registry.entries event.name).map (·.id)).Nodup)
    (given : ∀ i ∈ (w.registry.entries event.name).map (·.id), i ≤ w.lastId)
    (ran : (deliver ctx event).Shows app
      (World.Honours ((w.registry.entries event.name).map (·.id))) t w path w' answer) :
    Isolated event t w path := by
  obtain ⟨w₁, walk, w₂, r, last, others, rfl, proceeded, swept⟩ := shows_deliver_iff.1 ran
  have chain : Chain w.registry.interceptors (w.registry.entries event.name) event walk :=
    proceed_chain nodup proceeded
  have honours : w.Honours ((w.registry.entries event.name).map (·.id)) w₂ :=
    others.trans (proceed_honours (s := w.registry.snapshot event.name)
      (fun i hi => Nat.le_trans (given i hi) others.lastId) proceeded)
  obtain ⟨aside, asked, clears⟩ := sweep_shows swept
  have none : interceptors last = [] := by
    apply List.filterMap_eq_nil_iff.2
    intro s hs
    obtain ⟨v, o, rfl, -⟩ := clears s hs
    rfl
  have same : interceptors (.performed w (.snapshot event.name) :: (walk ++ last)) =
      interceptors walk := by
    rw [interceptors, List.filterMap_cons_none rfl, List.filterMap_append, ← interceptors,
      ← interceptors, none, List.append_nil]
  constructor
  · rw [same]
    exact chain.called
  · intro unended
    rw [same]
    have within : ∀ s ∈ walk, ¬s.EndsChain := fun s hs =>
      unended s (List.mem_cons_of_mem _ (List.mem_append_left _ hs))
    obtain ⟨called, walked⟩ := chain.unended within
    have first : Aside [.performed w (.snapshot event.name)] := ⟨rfl, rfl, rfl⟩
    exact ⟨called, walked.around first aside⟩
  · intro v o step
    rcases List.mem_cons.1 step with began | later
    · cases began
      exact .of_same rfl rfl
    rcases List.mem_append.1 later with inside | after
    · obtain ⟨ctx, step⟩ := chain.steps v o inside
      exact step.mild v _ _
    obtain ⟨v, o, same, clears⟩ := clears _ after
    cases same
    rcases clears with rfl | ⟨meanwhile, rfl⟩
    · exact .of_same rfl rfl
    -- An entry that has the id of one of the snapshot is that entry.
    apply mild_removeAll
    intro e he gone
    obtain ⟨e', spent, id⟩ := List.mem_map.1 gone
    obtain ⟨listed, spent⟩ := List.mem_filter.1 spent
    have known : e.id ∈ (w.registry.entries event.name).map (·.id) :=
      id ▸ List.mem_map_of_mem listed
    have mem := (honours.trans meanwhile).entries event.name e he known
    have same : e' = e := List.inj_on_of_nodup_map nodup listed mem id
    subst same
    exact ⟨mem, w₂, List.mem_cons_of_mem _ (List.mem_append_right _ asked), spent⟩

/-- A delivery that begins in a state that a dispatcher can get to is isolated from what its listeners,
its interceptors and other threads do meanwhile: subscribe, give up, add interceptors, dispatch again.
Of the other threads no more is asked than that they register nothing under an id of the snapshot,
which is what all moves of a dispatcher's threads do (`Course.Reachable.honours_later`).
It calls the interceptors and handles the entries that were registered when it began, in order, up to
the first inline failure, save for entries that are claimed when their turn comes. It takes nothing out
that was registered meanwhile, and puts nothing back. -/
theorem deliver_isolated {s : Course h α} (reached : s.Reachable app) {answer : DispatchResult}
    (ran : (deliver ctx event).Shows app
      (World.Honours ((s.world.registry.entries event.name).map (·.id))) t s.world path w' answer) :
    Isolated event t s.world path := by
  apply isolated_of_ids (reached.ids_nodup event.name) _ ran
  intro i hi
  obtain ⟨e, he, rfl⟩ := List.mem_map.1 hi
  exact reached.filed.ids_le _ (reached.filed.registered event.name e he)

/-- A delivery to a single entry, which is shown as `walk` says. -/
theorem exists_deliver_shows (idle : ∀ v : World h, meanwhile v v) {w₁ : World h}
    {walk : List (Sight h)} {r : ListenerResult}
    (listed : w.registry.snapshot event.name = ⟨[e], []⟩)
    (ran : (callListeners event ctx event [e]).Shows app meanwhile t w walk w₁ r) :
    ∃ path w', (deliver ctx event).Shows app meanwhile t w path w' (outcome event.name r) ∧
      handled path = handled walk ∧ ∀ s ∈ path, s ∈ walk ∨ ∃ v o, s = .performed v o := by
  obtain ⟨_, w', swept⟩ := exists_idle_sweep idle app t event w₁ [e] r
  obtain ⟨last, swept, -⟩ := unrolls_iff_shows.1 swept
  obtain ⟨aside, -, clears⟩ := sweep_shows swept
  refine ⟨.performed w (.snapshot event.name) :: (walk ++ last), w', ?_, ?_, ?_⟩
  · obtain ⟨entries, interceptors⟩ := Snapshot.mk.inj listed
    refine shows_deliver_iff.2 ⟨w, walk, w₁, r, last, idle w, rfl, ?_⟩
    rw [entries, interceptors]
    exact ⟨ran, swept⟩
  · rw [handled_cons_none rfl, handled_append, aside.shown, List.append_nil]
  · intro s hs
    rcases List.mem_cons.1 hs with began | later
    · exact .inr ⟨w, _, began⟩
    rcases List.mem_append.1 later with inside | after
    · exact .inl inside
    · obtain ⟨v, o, shown, -⟩ := clears s after
      exact .inr ⟨v, o, shown⟩

/-- An entry that is claimed is passed by, and nothing is called. -/
theorem exists_passing_by (idle : ∀ v : World h, meanwhile v v)
    (listed : w.registry.snapshot event.name = ⟨[e], []⟩) (spent : w.registry.isSpent e = true) :
    ∃ path w', (deliver ctx event).Shows app meanwhile t w path w' (.ok ()) ∧ handled path = [] ∧
      ∀ s ∈ path, ∃ v o, s = .performed v o := by
  have refused : (w.answer t (.claim e)).1 = false := congrArg Prod.fst (Registry.claim_of_spent spent)
  have walk : (callListeners event ctx event [e]).Shows app meanwhile t w [.performed w (.claim e)]
      (w.answer t (.claim e)).2 (.ok ()) := by
    refine shows_op_bind_iff.2 ⟨rfl, _, _, idle _, rfl, ?_⟩
    rw [refused]
    exact .done _ _
  obtain ⟨path, w', ran, none, steps⟩ := exists_deliver_shows idle listed walk
  refine ⟨path, w', ran, none, fun s hs => ?_⟩
  rcases steps s hs with inside | own
  · exact ⟨w, _, List.mem_singleton.1 inside⟩
  · exact own

/-- An application whose listener sends the event on again, gives its subscription up, and subscribes
another one. -/
abbrev echoHost : Host := ⟨Unit, Empty, Empty, Unit, Unit, Empty⟩

def echo : Application echoHost where
  listen _ ctx event := do
    let _ ← Script.ask (.dispatch ctx (some event) .empty)
    Script.ask (.unsubscribe ⟨"n", 1⟩)
    let _ ← Script.ask (.subscribe "n" (.plain ()) ⟨0, false, false⟩)
    return .ok ()
  intercept i := nomatch i
  run e := nomatch e

def echoEntry : Entry echoHost := ⟨1, .plain (), ⟨0, false, true⟩⟩

def echoSender : Thread × Script echoHost Unit :=
  (.main, do
    let _ ← Script.ask (.subscribe "n" echoEntry.handler echoEntry.options)
    let _ ← Script.ask (.dispatch .background (some news) .empty))

def outside : Course echoHost Unit := .run echo default none () [echoSender] (Course.turns 0 3)

def inside : Course echoHost Unit := .run echo default none () [echoSender] (Course.turns 0 8)

theorem outside_handles :
    ∃ path w', (deliver .background news).Shows echo
      (World.Honours ((outside.world.registry.entries news.name).map (·.id))) .main outside.world path w'
        (.ok ()) ∧
      (handled path).map (·.entry) = [echoEntry] ∧ Isolated news .main outside.world path := by
  have entries : outside.world.registry.entries news.name = [echoEntry] := by decide +kernel
  have none : outside.world.registry.interceptors = [] := List.isEmpty_iff.1 (by decide +kernel)
  have listed : outside.world.registry.snapshot news.name = ⟨[echoEntry], []⟩ := by
    rw [Registry.snapshot, entries, none]
  have unspent : outside.world.registry.isSpent echoEntry = false := by decide +kernel
  have granted : (outside.world.answer .main (.claim echoEntry)).1 = true :=
    congrArg Prod.fst (Registry.claim_of_unspent unspent)
  -- What the listener does calls nobody, since its own dispatch passes it by.
  have ends : ((echo.body (.listener echoEntry .background news)).alone .main
      (outside.world.answer .main (.claim echoEntry)).2).map (·.1.isOk) = some true := by
    decide +kernel
  obtain ⟨⟨r, w₁⟩, ran, ok⟩ := Option.map_eq_some_iff.1 ends
  cases r with
  | error e => cases ok
  | ok u =>
    obtain ⟨inner, body⟩ := runs_of_alone echo World.Honours.refl ran
    have walk : (callListeners news .background news [echoEntry]).Shows echo
        (World.Honours ((outside.world.registry.entries news.name).map (·.id))) .main outside.world
        [.performed outside.world (.claim echoEntry), .heard echoEntry .background news (.ok u)] w₁
        (.ok ()) := by
      refine shows_op_bind_iff.2 ⟨rfl, _, _, .refl _, rfl, ?_⟩
      rw [granted]
      exact .listener body (.done _ _)
    obtain ⟨path, w', shown, handles, -⟩ := exists_deliver_shows World.Honours.refl listed walk
    refine ⟨path, w', shown, ?_, deliver_isolated (Course.reachable_run ..) shown⟩
    rw [handles]
    rfl

/-- A delivery inside the listener's own call passes the listener by, although it is registered and
nothing is called that could hold the claim: the claim is that of the delivery around it. -/
theorem inside_passes_by :
    inside.Reachable echo ∧ inside.ledger.invoked = [echoEntry.id] ∧
      echoEntry ∈ inside.world.registry.entries news.name ∧ echoEntry.options.once ∧ ∃ path w',
        (deliver .background news).Shows echo (fun v v' => v' = v) .main inside.world path w' (.ok ()) ∧
          handled path = [] ∧ ∀ s ∈ path, ∃ v o, s = .performed v o := by
  have entries : inside.world.registry.entries news.name = [echoEntry] := by decide +kernel
  have none : inside.world.registry.interceptors = [] := List.isEmpty_iff.1 (by decide +kernel)
  have listed : inside.world.registry.snapshot news.name = ⟨[echoEntry], []⟩ := by
    rw [Registry.snapshot, entries, none]
  have spent : inside.world.registry.isSpent echoEntry = true := by decide +kernel
  refine ⟨Course.reachable_run .., by decide +kernel, ?_, rfl,
    exists_passing_by (fun _ => rfl) listed spent⟩
  rw [entries]
  exact List.mem_singleton_self _

end Delivery
end EventDispatch
