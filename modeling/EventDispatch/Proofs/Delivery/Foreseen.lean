import EventDispatch.Proofs.Delivery.Chained

namespace EventDispatch

variable {h : Host} {ρ : Type}

/-- What an interceptor decides, and what it makes of the result of the rest. -/
inductive Ruling where
  | finish (result : ListenerResult)
  | proceed (ctx : Context) (event : Event) (look : ListenerResult → ListenerResult)

structure Invocation (h : Host) where
  entry : Entry h
  ctx : Context
  event : Event

/-- Async entries are called by the delivery itself only if they are forced to be. -/
def Invocation.handling (forced : Bool) (c : Invocation h) : Handling h :=
  if c.entry.options.asynchronous && !forced then .accepted c.entry c.ctx c.event
  else .called c.entry c.ctx c.event

/-- What comes of a delivery or of a part of it. -/
structure Upshot (h : Host) (ρ : Type) where
  calls : List (Invocation h)
  result : ρ
  registry : Registry h

namespace Upshot

def after (c : Invocation h) (u : Upshot h ρ) : Upshot h ρ := { u with calls := c :: u.calls }

def map {σ : Type} (f : ρ → σ) (u : Upshot h ρ) : Upshot h σ := ⟨u.calls, f u.result, u.registry⟩

end Upshot

/-- What listeners answer and interceptors decide, by the context and the event alone. Code that goes by
habit has no other effect on deliveries: it leaves the registry and the settings as they are. -/
structure Habits (h : Host) where
  answer : Entry h → Context → Event → ListenerResult
  rule : Interceptor h → Context → Event → Ruling

namespace Habits

variable (k : Habits h)

/-- The listeners in order, up to the first that fails inline. Async ones get the event as it was
dispatched. -/
def walk (dispatched : Event) (ctx : Context) (event : Event) :
    List (Entry h) → Registry h → Upshot h ListenerResult
  | [], r => ⟨[], .ok (), r⟩
  | e :: es, r =>
    if r.isSpent e then walk dispatched ctx event es r
    else if e.options.asynchronous then
      (walk dispatched ctx event es (r.claim e).2).after ⟨e, ctx, dispatched⟩
    else
      match k.answer e ctx event with
      | .ok () => (walk dispatched ctx event es (r.claim e).2).after ⟨e, ctx, event⟩
      | .error error => ⟨[⟨e, ctx, event⟩], .error error, (r.claim e).2⟩

def chain (dispatched : Event) (es : List (Entry h)) :
    List (Interceptor h) → Context → Event → Registry h → Upshot h ListenerResult
  | [], ctx, event, r => k.walk dispatched ctx event es r
  | i :: is, ctx, event, r =>
    match k.rule i ctx event with
    | .finish result => ⟨[], result, r⟩
    | .proceed ctx event look => (chain dispatched es is ctx event r).map look

def delivery (ctx : Context) (event : Event) (r : Registry h) : Upshot h DispatchResult :=
  let u := k.chain event (r.entries event.name) r.interceptors ctx event r
  ⟨u.calls, Delivery.outcome event.name u.result, u.registry.cleared event.name (r.entries event.name)⟩

end Habits

structure Invocation.Given (es : List (Entry h)) (dispatched : Event) (c : Invocation h) : Prop where
  listed : c.entry ∈ es
  event : c.entry.options.asynchronous = true → c.event = dispatched

namespace Habits

variable (k : Habits h) {es : List (Entry h)}

theorem walk_given (dispatched : Event) (ctx : Context) (event : Event) (r : Registry h) :
    ∀ c ∈ (k.walk dispatched ctx event es r).calls, c.Given es dispatched := by
  induction es generalizing r with
  | nil => exact fun c hc => absurd hc List.not_mem_nil
  | cons e es ih =>
    have later : ∀ r, ∀ c ∈ (k.walk dispatched ctx event es r).calls, c.Given (e :: es) dispatched :=
      fun r c hc => ⟨List.mem_cons_of_mem e (ih r c hc).listed, (ih r c hc).event⟩
    rw [walk]
    split
    · exact later r
    · split
      · exact List.forall_mem_cons.2 ⟨⟨List.mem_cons_self, fun _ => rfl⟩, later _⟩
      · next inline =>
        have own : Invocation.Given (e :: es) dispatched ⟨e, ctx, event⟩ :=
          ⟨List.mem_cons_self, fun asynchronous => absurd asynchronous inline⟩
        split
        · exact List.forall_mem_cons.2 ⟨own, later _⟩
        · exact List.forall_mem_singleton.2 own

theorem chain_given (dispatched : Event) (is : List (Interceptor h)) (ctx : Context) (event : Event)
    (r : Registry h) : ∀ c ∈ (k.chain dispatched es is ctx event r).calls, c.Given es dispatched := by
  induction is generalizing ctx event with
  | nil => exact k.walk_given dispatched ctx event r
  | cons i is ih =>
    rw [chain]
    split
    · exact fun c hc => absurd hc List.not_mem_nil
    · exact ih _ _

/-- A walk takes claims and changes nothing else. -/
theorem walk_registry (dispatched : Event) (ctx : Context) (event : Event) (r : Registry h) :
    (k.walk dispatched ctx event es r).registry.listeners = r.listeners ∧
      (k.walk dispatched ctx event es r).registry.interceptors = r.interceptors := by
  induction es generalizing r with
  | nil => exact ⟨rfl, rfl⟩
  | cons e es ih =>
    have claimed := ih (r.claim e).2
    rw [r.listeners_claim, r.interceptors_claim] at claimed
    rw [walk]
    split
    · exact ih r
    · split
      · exact claimed
      · split
        · exact claimed
        · exact ⟨r.listeners_claim e, r.interceptors_claim e⟩

theorem chain_registry (dispatched : Event) (is : List (Interceptor h)) (ctx : Context) (event : Event)
    (r : Registry h) : (k.chain dispatched es is ctx event r).registry.listeners = r.listeners ∧
      (k.chain dispatched es is ctx event r).registry.interceptors = r.interceptors := by
  induction is generalizing ctx event with
  | nil => exact k.walk_registry dispatched ctx event r
  | cons i is ih =>
    rw [chain]
    split
    · exact ⟨rfl, rfl⟩
    · exact ih _ _

/-- A delivery registers nothing. -/
theorem delivery_registry (ctx : Context) (event : Event) (r : Registry h) :
    (∀ name, ∀ e ∈ (k.delivery ctx event r).registry.entries name, e ∈ r.entries name) ∧
      (k.delivery ctx event r).registry.interceptors = r.interceptors := by
  obtain ⟨listeners, interceptors⟩ :=
    k.chain_registry event r.interceptors ctx event r
  refine ⟨fun name e mem => ?_, Registry.interceptors_cleared.trans interceptors⟩
  have kept := Registry.mem_of_mem_cleared mem
  rwa [Registry.entries_congr listeners] at kept

end Habits

namespace Delivery

open Program
open World (Spares)

def Accepted (path : List (Footstep h)) : Prop := ∀ e, .refused e ∉ handlings path

theorem accepted_append_iff {first rest : List (Footstep h)} :
    Accepted (first ++ rest) ↔ Accepted first ∧ Accepted rest := by
  unfold Accepted
  simp only [handlings_append, List.mem_append, not_or, forall_and]

theorem Accepted.of_cons {s : Footstep h} {rest : List (Footstep h)} (accepted : Accepted (s :: rest)) :
    Accepted rest :=
  (accepted_append_iff.1 (show Accepted ([s] ++ rest) from accepted)).2

variable {app : Application h} {t : Thread} {ctx : Context} {event dispatched : Event} {e : Entry h}
  {es : List (Entry h)} {is : List (Interceptor h)} {i : Interceptor h} {w w₁ w₂ w' : World h}
  {path steps shown : List (Footstep h)} {k : Habits h}

/-- The pool refused nothing, if it was asked at all. -/
def Served (w : World h) (path : List (Footstep h)) : Prop :=
  w.settings.forceSync = false → Accepted path

namespace Served

variable {first rest : List (Footstep h)}

theorem of_cons {s : Footstep h} (served : Served w (s :: rest)) (settings : w₁.settings = w.settings) :
    Served w₁ rest := by
  intro pooled
  rw [settings] at pooled
  exact (served pooled).of_cons

theorem of_forced (forced : w.settings.forceSync = true) : Served w path :=
  fun pooled => absurd (pooled.symm.trans forced) Bool.false_ne_true

theorem left (served : Served w (first ++ rest)) : Served w first :=
  fun pooled => (accepted_append_iff.1 (served pooled)).1

theorem right (served : Served w (first ++ rest)) (settings : w₁.settings = w.settings) :
    Served w₁ rest := by
  intro pooled
  rw [settings] at pooled
  exact (accepted_append_iff.1 (served pooled)).2

end Served

def Fits (app : Application h) (t : Thread) : Ruling → Verdict h → Prop
  | .finish result, v => v = .finish result
  | .proceed ctx event look, v =>
    ∃ after, v = .proceed ctx event after ∧ ∀ r, (after r).program.Settles app t (look r)

theorem fits_finish_iff {ruling : Ruling} {r : ListenerResult} :
    Fits app t ruling (.finish r) ↔ ruling = .finish r := by
  cases ruling with
  | finish result =>
    constructor
    · rintro ⟨⟩
      rfl
    · rintro ⟨⟩
      rfl
  | proceed ctx event look =>
    constructor
    · rintro ⟨after, ⟨⟩, -⟩
    · rintro ⟨⟩

theorem fits_proceed_iff {ruling : Ruling} {after : ListenerResult → Script h ListenerResult} :
    Fits app t ruling (.proceed ctx event after) ↔
      ∃ look, ruling = .proceed ctx event look ∧
        ∀ r, (after r).program.Settles app t (look r) := by
  cases ruling with
  | finish result =>
    constructor
    · rintro ⟨⟩
    · rintro ⟨look, ⟨⟩, -⟩
  | proceed ctx' event' view =>
    constructor
    · rintro ⟨after, ⟨⟩, looks⟩
      exact ⟨view, rfl, looks⟩
    · rintro ⟨look, ⟨⟩, looks⟩
      exact ⟨after, rfl, looks⟩

/-- However often the interceptor is asked, and in whatever state, its verdict is as ruled, and it
leaves the registry and the settings as they were, before the verdict and after it. -/
def Obeys (app : Application h) (t : Thread) (ctx : Context) (event : Event) (i : Interceptor h)
    (ruling : Ruling) : Prop :=
  ∀ w, (∀ path w' v, (app.verdict i ctx event).program.Runs app Spares t w path w' v →
      w.Spares w' ∧ Fits app t ruling v) ∧
    ∃ path w' v, (app.verdict i ctx event).program.Runs app Spares t w path w' v

theorem obeys_of_settles {v : Verdict h} {ruling : Ruling}
    (verdict : (app.verdict i ctx event).program.Settles app t v) (fits : Fits app t ruling v) :
    Obeys app t ctx event i ruling := by
  intro w
  obtain ⟨path, w', ran⟩ := (verdict w).2
  refine ⟨fun path w' v' ran => ?_, path, w', v, ran⟩
  obtain ⟨rfl, spared⟩ := (verdict w).1 _ _ _ ran
  exact ⟨spared, fits⟩

theorem obeys_of_passesThrough (passes : PassesThrough app t ctx event i) :
    Obeys app t ctx event i (.proceed ctx event id) := by
  intro w
  refine ⟨fun path w' v ran => ?_, (passes w).2⟩
  obtain ⟨spared, after, rfl, settles⟩ := (passes w).1 _ _ _ ran
  exact ⟨spared, after, rfl, settles⟩

theorem obeys_filter (keeps : Context → Event → Bool) :
    Obeys app t ctx event (.filter keeps)
      (if keeps ctx event then .proceed ctx event id else .finish (.ok ())) := by
  cases kept : keeps ctx event with
  | true =>
    have verdict : (app.verdict (.filter keeps) ctx event).program =
        .done (.proceed ctx event fun r => return r) := by
      simp only [Application.verdict, Verdict.filter, kept, if_true]
      rfl
    refine obeys_of_settles (verdict ▸ settles_done _) ⟨_, rfl, fun r => settles_done r⟩
  | false =>
    have verdict : (app.verdict (.filter keeps) ctx event).program =
        .perform (.host (.log (.filteredOut event.name))) fun _ => .done (.finish (.ok ())) := by
      simp only [Application.verdict, Verdict.filter, kept, Bool.false_eq_true, if_false]
      rfl
    refine obeys_of_settles (verdict ▸ ?_) rfl
    exact settles_perform (fun _ => rfl) (fun _ => ⟨rfl, rfl⟩) fun _ => settles_done _

/-- On whatever thread they are called, these listeners answer and these interceptors decide by habit,
and leave the registry and the settings alone. -/
structure Habitual (app : Application h) (k : Habits h) (r : Registry h) : Prop where
  listeners : ∀ name, ∀ e ∈ r.entries name, ∀ t ctx event,
    (app.body (.listener e ctx event)).Settles app t (k.answer e ctx event)
  interceptors : ∀ i ∈ r.interceptors, ∀ t ctx event, Obeys app t ctx event i (k.rule i ctx event)

theorem Habitual.after_delivery {r : Registry h} (habitual : Habitual app k r) (ctx : Context)
    (event : Event) : Habitual app k (k.delivery ctx event r).registry := by
  obtain ⟨entries, interceptors⟩ := k.delivery_registry ctx event r
  refine ⟨fun name e mem => habitual.listeners name e (entries name e mem), fun i hi => ?_⟩
  rw [interceptors] at hi
  exact habitual.interceptors i hi

structure Follows (w : World h) (path : List (Footstep h)) (w' : World h) (answer : ρ)
    (u : Upshot h ρ) : Prop where
  calls : handlings path = u.calls.map (·.handling w.settings.forceSync)
  result : answer = u.result
  registry : w'.registry = u.registry
  settings : w'.settings = w.settings

namespace Follows

variable {answer : ρ} {u : Upshot h ρ}

/-- What surrounds a run and lets the registry alone does not matter to it. -/
theorem within (follows : Follows w₁ shown w₂ answer u) (before : w.Spares w₁) (after : w₂.Spares w')
    (same : handlings path = handlings shown) : Follows w path w' answer u where
  calls := by rw [same, follows.calls, before.settings]
  result := follows.result
  registry := after.registry.trans follows.registry
  settings := after.settings.trans (follows.settings.trans before.settings)

theorem map {σ : Type} (follows : Follows w path w' answer u) (f : ρ → σ) :
    Follows w path w' (f answer) (u.map f) :=
  ⟨follows.calls, congrArg f follows.result, follows.registry, follows.settings⟩

/-- An entry that is handled, and those after it. -/
theorem pass {c : Invocation h} (follows : Follows w₂ path w' answer u)
    (handled : handlings steps = [c.handling w.settings.forceSync])
    (settings : w₂.settings = w.settings) :
    Follows w (.performed w (.claim e) :: (steps ++ path)) w' answer (u.after c) where
  calls := by
    rw [handlings, List.filterMap_cons_none rfl, ← handlings, handlings_append, handled,
      follows.calls, settings]
    rfl
  result := follows.result
  registry := follows.registry
  settings := follows.settings.trans settings

end Follows

theorem logListenerFailure_tells {id : Nat} {r : ListenerResult} {u : Unit}
    (ran : (logListenerFailure id event r).Unrolls app Spares t w path w' u) :
    handlings path = [] ∧ w.Spares w' := by
  unfold logListenerFailure at ran
  split at ran
  · obtain ⟨rfl, rfl, -⟩ := unrolls_done_iff.1 ran
    exact ⟨rfl, .refl _⟩
  · obtain ⟨rfl, rfl, -⟩ := unrolls_done_iff.1 ran
    exact ⟨rfl, .refl _⟩
  · obtain ⟨-, w₁, rest, others, rfl, ended⟩ := unrolls_perform_iff.1 ran
    obtain ⟨rfl, rfl, -⟩ := unrolls_done_iff.1 ended
    exact ⟨rfl, .after others rfl rfl⟩

/-- A listener that is called, and whose failure is only told to the log. -/
theorem handlings_listen {u : Unit}
    (ran : ((listen e ctx event).bind (logListenerFailure e.id event)).Unrolls app Spares t w path w'
      u) : handlings path = [.called e ctx event] := by
  obtain ⟨inner, w₁, r, rest, -, rfl, told⟩ := unrolls_listener_iff.1 ran
  show .called e ctx event :: handlings rest = _
  rw [(logListenerFailure_tells told).1]

theorem handlings_called {forced : Bool} (inline : e.options.asynchronous = false) :
    handlings [.called (.listener e ctx event)] =
      [(⟨e, ctx, event⟩ : Invocation h).handling forced] := by
  rw [Invocation.handling, inline]
  rfl

theorem exists_listened {r : ListenerResult}
    (settles : (app.body (.listener e ctx event)).Settles app t r) :
    ∃ path w', ((listen e ctx event).bind (logListenerFailure e.id event)).Unrolls app Spares t w path
      w' () := by
  obtain ⟨inner, w₁, body⟩ := (settles w).2
  have told : ∃ path w', (logListenerFailure e.id event r).Unrolls app Spares t w₁ path w' () := by
    unfold logListenerFailure
    split
    · exact ⟨[], w₁, .done _ _⟩
    · exact ⟨[], w₁, .done _ _⟩
    · exact ⟨_, _, .perform rfl (.refl _) (.done _ _)⟩
  obtain ⟨rest, w', told⟩ := told
  exact ⟨_, w', .listener body told⟩

/-- An async entry is called here or handed to the pool, and in either way nothing of it is left. -/
theorem spawnListener_follows {u : Unit} {r : ListenerResult}
    (asynchronous : e.options.asynchronous = true)
    (settles : (app.body (.listener e ctx event)).Settles app t r) (served : Served w path)
    (ran : (spawnListener ctx e event).Unrolls app Spares t w path w' u) :
    handlings path = [(⟨e, ctx, event⟩ : Invocation h).handling w.settings.forceSync] ∧
      w.Spares w' := by
  cases forced : w.settings.forceSync with
  | false =>
    rcases spawnListener_hands forced ran with ⟨shown, spared⟩ | ⟨shown, -, -⟩
    · rw [shown, Invocation.handling, asynchronous]
      exact ⟨rfl, spared⟩
    · exact absurd (shown ▸ List.mem_singleton_self _) (served forced e)
  | true =>
    obtain ⟨-, w₁, rest, others, rfl, ran₁⟩ := unrolls_op_bind_iff.1 ran
    have spared : w.Spares w₁ := .after others rfl rfl
    have settings : (w.answer t (.host .settings)).1.forceSync = true := forced
    rw [settings] at ran₁
    have listened : ((listen e ctx event).bind (logListenerFailure e.id event)).Unrolls app Spares t w₁
      rest w' u := ran₁
    have called : handlings rest = [.called e ctx event] := handlings_listen listened
    rw [Invocation.handling, Bool.not_true, Bool.and_false]
    refine ⟨called, ?_⟩
    obtain ⟨inner, w₂, r', rest, body, rfl, told⟩ := unrolls_listener_iff.1 listened
    have spared := spared.trans ((settles w₁).1 _ _ _ body).2
    exact spared.trans (logListenerFailure_tells told).2

theorem callListeners_follows {r : ListenerResult}
    (settles : ∀ e ∈ es, ∀ ctx event,
      (app.body (.listener e ctx event)).Settles app t (k.answer e ctx event))
    (served : Served w path)
    (ran : (callListeners dispatched ctx event es).Unrolls app Spares t w path w' r) :
    Follows w path w' r (k.walk dispatched ctx event es w.registry) := by
  rw [unrolls_iff_shows] at ran
  obtain ⟨path, ran, rfl⟩ := ran
  induction es generalizing w path with
  | nil =>
    obtain ⟨rfl, rfl, rfl⟩ := shows_done_iff.1 ran
    exact ⟨rfl, rfl, rfl, rfl⟩
  | cons e es ih =>
    obtain ⟨own, later⟩ := List.forall_mem_cons.1 settles
    rw [Habits.walk]
    cases walkStep_of_shows ran with
    | skip spent others rest =>
      have spared := World.Spares.after others (congrArg Prod.snd (Registry.claim_of_spent spent)) rfl
      have follows := ih later _ rest (served.of_cons spared.settings)
      rw [spared.registry] at follows
      rw [if_pos spent]
      exact follows.within spared (.refl w') rfl
    | spawn unspent asynchronous others spawned rest =>
      rw [List.map_cons, List.map_append] at served ⊢
      have served := served.of_cons others.settings
      obtain ⟨handled, spared⟩ := spawnListener_follows asynchronous (own ctx dispatched) served.left
        (unrolls_iff_shows.2 ⟨_, spawned, rfl⟩)
      have follows := ih later _ rest (served.right spared.settings)
      have spared := others.trans spared
      rw [others.settings] at handled
      rw [spared.registry] at follows
      rw [unspent, asynchronous]
      exact follows.pass handled spared.settings
    | pass unspent inline others body rest =>
      obtain ⟨answer, spared⟩ := (own ctx event _).1 _ _ _ body
      have follows := ih later _ rest
        ((served.of_cons others.settings).of_cons spared.settings)
      have spared := others.trans spared
      rw [spared.registry] at follows
      rw [unspent, inline, ← answer]
      exact follows.pass (handlings_called inline) spared.settings
    | stop unspent inline others body =>
      obtain ⟨answer, spared⟩ := (own ctx event _).1 _ _ _ body
      have spared := others.trans spared
      rw [unspent, inline, ← answer]
      exact ⟨handlings_called inline, rfl, spared.registry, spared.settings⟩

theorem proceed_follows {r : ListenerResult}
    (settles : ∀ e ∈ es, ∀ ctx event,
      (app.body (.listener e ctx event)).Settles app t (k.answer e ctx event))
    (rules : ∀ i ∈ is, ∀ ctx event, Obeys app t ctx event i (k.rule i ctx event))
    (served : Served w path)
    (ran : (proceed ⟨is, es, dispatched⟩ ctx event).Unrolls app Spares t w path w' r) :
    Follows w path w' r (k.chain dispatched es is ctx event w.registry) := by
  induction is generalizing ctx event w path w' r with
  | nil => exact callListeners_follows settles served ran
  | cons i is ih =>
    obtain ⟨own, later⟩ := List.forall_mem_cons.1 rules
    have ran : (Program.call (.interceptor i ⟨is, es, dispatched⟩ ctx event) .done).Unrolls app Spares t
      w path w' r := ran
    rw [Habits.chain]
    cases ran with
    | finish verdict ended =>
      obtain ⟨rfl, rfl, rfl⟩ := unrolls_done_iff.1 ended
      obtain ⟨spared, fits⟩ := (own ctx event w).1 _ _ _ verdict
      rw [fits_finish_iff.1 fits]
      exact ⟨rfl, rfl, spared.registry, spared.settings⟩
    | proceed verdict chained look ended =>
      obtain ⟨rfl, rfl, rfl⟩ := unrolls_done_iff.1 ended
      obtain ⟨spared, fits⟩ := (own ctx event w).1 _ _ _ verdict
      obtain ⟨view, rule, looks⟩ := fits_proceed_iff.1 fits
      obtain ⟨rfl, spared'⟩ := (looks _ _).1 _ _ _ look
      rw [List.append_nil] at served ⊢
      -- Until here the registry is as it was, so that the rest of the chain is computed from it.
      have follows := ih later (served.of_cons spared.settings) chained
      rw [spared.registry] at follows
      rw [rule]
      refine Follows.map (follows.within spared spared' ?_) view
      rfl

theorem deliver_follows {answer : DispatchResult} (habitual : Habitual app k w.registry)
    (served : Served w path) (ran : (deliver ctx event).Unrolls app Spares t w path w' answer) :
    Follows w path w' answer (k.delivery ctx event w.registry) := by
  rw [deliver_eq] at ran
  obtain ⟨-, w₁, rest, others, rfl, ran₁⟩ := unrolls_op_bind_iff.1 ran
  have spared : w.Spares w₁ := .after others rfl rfl
  obtain ⟨walk, w₂, r, last, rfl, proceeded, swept⟩ := ran₁.of_bind
  have chained := proceed_follows (fun e he => habitual.listeners event.name e he t)
    (fun i hi => habitual.interceptors i hi t) (served.of_cons spared.settings).left proceeded
  rw [spared.registry] at chained
  obtain ⟨none, rfl, registry, settings⟩ := sweep_clears swept
  have shown : handlings (.performed w (.snapshot event.name) :: (walk ++ last)) = handlings walk := by
    rw [handlings, List.filterMap_cons_none rfl, ← handlings, handlings_append, none, List.append_nil]
  have follows := chained.within spared (.refl w₂) shown
  refine ⟨follows.calls, congrArg (outcome event.name) follows.result, ?_,
    settings.trans follows.settings⟩
  rw [registry, follows.registry]
  rfl

theorem exists_spawnListener {r : ListenerResult}
    (settles : (app.body (.listener e ctx event)).Settles app t r) :
    ∃ path w', (spawnListener ctx e event).Unrolls app Spares t w path w' () ∧ Accepted path := by
  cases forced : w.settings.forceSync with
  | false =>
    obtain ⟨path, w', ran, shown⟩ := exists_accepted forced
    refine ⟨path, w', ran, fun e' refused => ?_⟩
    rw [shown] at refused
    cases List.mem_singleton.1 refused
  | true =>
    obtain ⟨path, w', ran⟩ := exists_listened settles
    have settings : (w.answer t (.host .settings)).1.forceSync = true := forced
    refine ⟨.performed w (.host .settings) :: path, w',
      unrolls_op_bind_iff.2 ⟨rfl, w, path, .refl w, rfl, ?_⟩, fun e' refused => ?_⟩
    · rw [settings]
      exact ran
    · have refused : .refused e' ∈ handlings path := refused
      rw [handlings_listen ran] at refused
      cases List.mem_singleton.1 refused

theorem exists_callListeners
    (settles : ∀ e ∈ es, ∀ ctx event,
      (app.body (.listener e ctx event)).Settles app t (k.answer e ctx event)) :
    ∃ path w' r, (callListeners dispatched ctx event es).Unrolls app Spares t w path w' r ∧
      Accepted path := by
  induction es generalizing w with
  | nil => exact ⟨[], w, .ok (), .done _ _, fun _ refused => absurd refused List.not_mem_nil⟩
  | cons e es ih =>
    obtain ⟨own, later⟩ := List.forall_mem_cons.1 settles
    refine Unrolls.exists_op rfl (World.Spares.refl _) ?_
    have granted : (w.answer t (.claim e)).1 = (w.registry.claim e).1 := rfl
    rw [granted]
    cases spent : w.registry.isSpent e with
    | true =>
      -- The claim is not granted, and the run goes on to the next entry.
      rw [Registry.claim_of_spent spent]
      exact ih later
    | false =>
      rw [Registry.claim_of_unspent spent]
      cases asynchronous : e.options.asynchronous with
      | true =>
        obtain ⟨steps, w₂, spawned, first⟩ := exists_spawnListener (own ctx dispatched)
        obtain ⟨path, w', r, ran, accepted⟩ := ih later
        exact ⟨steps ++ path, w', r, spawned.bind ran, accepted_append_iff.2 ⟨first, accepted⟩⟩
      | false =>
        obtain ⟨inner, w₂, body⟩ := (own ctx event (w.answer t (.claim e)).2).2
        have called : Accepted [.called (.listener e ctx event)] := by
          intro e' refused
          cases List.mem_singleton.1 refused
        cases answer : k.answer e ctx event with
        | ok u =>
          rw [answer] at body
          obtain ⟨path, w', r, ran, accepted⟩ := ih later
          exact ⟨_, w', r, Unrolls.bind (.listener body (.done _ _)) ran,
            accepted_append_iff.2 ⟨called, accepted⟩⟩
        | error error =>
          rw [answer] at body
          exact ⟨_, w₂, .error error, Unrolls.bind (.listener body (.done _ _)) (.done _ _), called⟩

theorem exists_proceeded
    (settles : ∀ e ∈ es, ∀ ctx event,
      (app.body (.listener e ctx event)).Settles app t (k.answer e ctx event))
    (rules : ∀ i ∈ is, ∀ ctx event, Obeys app t ctx event i (k.rule i ctx event)) :
    ∃ path w' r, (proceed ⟨is, es, dispatched⟩ ctx event).Unrolls app Spares t w path w' r ∧
      Accepted path := by
  induction is generalizing ctx event w with
  | nil => exact exists_callListeners settles
  | cons i is ih =>
    obtain ⟨own, later⟩ := List.forall_mem_cons.1 rules
    obtain ⟨first, w₁, v, verdict⟩ := (own ctx event w).2
    have fits := ((own ctx event w).1 _ _ _ verdict).2
    cases rule : k.rule i ctx event with
    | finish result =>
      rw [rule] at fits
      cases fits
      exact ⟨_, w₁, result, .finish verdict (.done result w₁),
        fun _ refused => absurd refused List.not_mem_nil⟩
    | proceed ctx' event' view =>
      rw [rule] at fits
      obtain ⟨after, rfl, looks⟩ := fits
      obtain ⟨shown, w₂, r, chained, accepted⟩ := ih later
      obtain ⟨last, w₃, look⟩ := (looks r w₂).2
      refine ⟨_, w₃, view r, .proceed verdict chained look (.done _ w₃), ?_⟩
      rw [List.append_nil]
      exact accepted

/-- Whatever the state, a delivery can come to its end without a refusal. -/
theorem exists_delivered (habitual : Habitual app k w.registry) :
    ∃ path w' answer, (deliver ctx event).Unrolls app Spares t w path w' answer ∧ Accepted path := by
  obtain ⟨walk, w₂, r, proceeded, accepted⟩ :=
    exists_proceeded (fun e he => habitual.listeners event.name e he t)
      (fun i hi => habitual.interceptors i hi t)
  obtain ⟨last, w', answer, swept⟩ :=
    exists_sweep app t event w₂ (w.registry.entries event.name) r
  refine ⟨.performed w (.snapshot event.name) :: (walk ++ last), w', answer, ?_, ?_⟩
  · rw [deliver_eq]
    exact unrolls_op_bind_iff.2 ⟨rfl, w, _, .refl _, rfl, proceeded.bind swept⟩
  · have quiet : Accepted last := by
      intro e refused
      rw [(sweep_clears swept).1] at refused
      cases refused
    exact accepted_append_iff.2 ⟨accepted, quiet⟩

end Delivery
end EventDispatch
