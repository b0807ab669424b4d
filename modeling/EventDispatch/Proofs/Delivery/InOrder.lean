import EventDispatch.Proofs.Delivery.WalkStep

namespace EventDispatch

variable {h : Host} {α : Type}

/-- Whoever else is at work lets the registry and the settings alone. -/
structure World.Spares (w w' : World h) : Prop where
  registry : w'.registry = w.registry
  settings : w'.settings = w.settings

theorem World.Spares.refl (w : World h) : w.Spares w := ⟨rfl, rfl⟩

theorem World.Spares.trans {w w₁ w₂ : World h} (first : w.Spares w₁) (second : w₁.Spares w₂) :
    w.Spares w₂ :=
  ⟨second.registry.trans first.registry, second.settings.trans first.settings⟩

/-- A step of the thread itself, and what the others do then. -/
theorem World.Spares.after {t : Thread} {o : Op h} {w w₁ : World h}
    (others : (w.answer t o).2.Spares w₁) (registry : (w.answer t o).2.registry = w.registry)
    (settings : (w.answer t o).2.settings = w.settings) : w.Spares w₁ :=
  .trans ⟨registry, settings⟩ others

/-- However often it is run, and in whatever state, the program comes to an end with this answer, and it
lets the registry and the settings alone too. -/
def Program.Settles (app : Application h) (t : Thread) (p : Program h α) (a : α) : Prop :=
  ∀ w, (∀ path w' b, p.Runs app World.Spares t w path w' b → b = a ∧ w.Spares w') ∧
    ∃ path w', p.Runs app World.Spares t w path w' a

namespace Program

variable {app : Application h} {t : Thread}

theorem settles_done (a : α) : (Program.done a : Program h α).Settles app t a := by
  refine fun w => ⟨fun path w' b ran => ?_, [], w, .done a w⟩
  obtain ⟨-, rfl, rfl⟩ := runs_done_iff.1 ran
  exact ⟨rfl, .refl _⟩

theorem settles_perform {o : Op h} {next : o.Answer → Program h α} {a : α}
    (ready : ∀ w : World h, w.isReady t o) (spares : ∀ w : World h, w.Spares (w.answer t o).2)
    (rest : ∀ x, (next x).Settles app t a) : (Program.perform o next).Settles app t a := by
  refine fun w => ⟨fun path w' b ran => ?_, ?_⟩
  · obtain ⟨-, w₁, tail, others, rfl, after⟩ := runs_perform_iff.1 ran
    obtain ⟨rfl, spared⟩ := (rest _ w₁).1 _ _ _ after
    exact ⟨rfl, (spares w).trans (others.trans spared)⟩
  · obtain ⟨tail, w', after⟩ := (rest (w.answer t o).1 (w.answer t o).2).2
    exact ⟨_, w', .perform (ready w) (.refl _) after⟩

end Program

namespace Delivery

open Program Reference
open World (Spares)

variable {app : Application h} {t : Thread} {ctx : Context} {event : Event} {e : Entry h}
  {es : List (Entry h)} {w w₁ w' : World h} {path : List (Footstep h)}
  {results : Entry h → ListenerResult}

theorem submit_hands {r : Except PoolError Unit}
    (ran : (submit (.listener e ctx event)).Unrolls app Spares t w path w' r) :
    w.Spares w' ∧ (r = .ok () ∧ handlings path = [.accepted e ctx event] ∨
      (∃ e, r = .error e) ∧ handlings path = []) := by
  obtain ⟨-, w₁, rest, others, rfl, ran₁⟩ := unrolls_op_bind_iff.1 ran
  have spared : w.Spares w₁ := .after others rfl rfl
  split at ran₁
  · obtain ⟨-, w₂, rest, others, rfl, ran₂⟩ := unrolls_op_bind_iff.1 ran₁
    obtain ⟨rfl, rfl, rfl⟩ := unrolls_done_iff.1 ran₂
    exact ⟨spared.trans (.after others rfl rfl), .inr ⟨⟨_, rfl⟩, rfl⟩⟩
  · obtain ⟨-, w₂, rest, others, rfl, ran₂⟩ := unrolls_op_bind_iff.1 ran₁
    have spared : w.Spares w₂ := spared.trans (.after others rfl rfl)
    have answer : (w₁.answer t (.enqueue (.listener e ctx event))).1 =
      (w₁.pool.enqueue (.listener e ctx event)).1 := rfl
    rw [answer] at ran₂
    split at ran₂
    · next accepted =>
      obtain ⟨-, w₃, rest, others, rfl, ran₃⟩ := unrolls_op_bind_iff.1 ran₂
      obtain ⟨rfl, rfl, rfl⟩ := unrolls_done_iff.1 ran₃
      refine ⟨spared.trans (.after others rfl rfl), .inl ⟨rfl, ?_⟩⟩
      rw [handlings, List.filterMap_cons_none rfl,
        List.filterMap_cons_some (Footstep.handling?_of_accepted accepted)]
      rfl
    · next refused =>
      obtain ⟨-, w₃, rest, others, rfl, ran₃⟩ := unrolls_op_bind_iff.1 ran₂
      obtain ⟨rfl, rfl, rfl⟩ := unrolls_done_iff.1 ran₃
      refine ⟨spared.trans (.after others rfl rfl), .inr ⟨⟨_, rfl⟩, ?_⟩⟩
      rw [handlings, List.filterMap_cons_none rfl,
        List.filterMap_cons_none (Footstep.handling?_of_refused refused)]
      rfl

/-- An entry goes to the pool, or the claim on it is handed back. -/
theorem spawnListener_hands {u : Unit} (unforced : w.settings.forceSync = false)
    (ran : (spawnListener ctx e event).Unrolls app Spares t w path w' u) :
    handlings path = [.accepted e ctx event] ∧ w.Spares w' ∨
      handlings path = [.refused e] ∧ w'.registry = w.registry.release e ∧
        w'.settings = w.settings := by
  obtain ⟨-, w₁, rest, others, rfl, ran₁⟩ := unrolls_op_bind_iff.1 ran
  have spared : w.Spares w₁ := .after others rfl rfl
  have settings : (w.answer t (.host .settings)).1.forceSync = false := unforced
  rw [settings] at ran₁
  obtain ⟨first, w₂, accepted, rest, rfl, spawned, ran₂⟩ := ran₁.of_bind
  obtain ⟨steps, w₃, r, told, rfl, submitted, answered⟩ := spawned.of_bind
  obtain ⟨spared₁, outcome⟩ := submit_hands submitted
  rcases outcome with ⟨rfl, shown⟩ | ⟨⟨error, rfl⟩, shown⟩
  · obtain ⟨rfl, rfl, rfl⟩ := unrolls_done_iff.1 answered
    obtain ⟨rfl, rfl, -⟩ := unrolls_done_iff.1 ran₂
    refine .inl ⟨?_, spared.trans spared₁⟩
    rw [List.append_nil, List.append_nil]
    exact shown
  · obtain ⟨-, w₄, rest, others, rfl, told⟩ := unrolls_op_bind_iff.1 answered
    obtain ⟨rfl, rfl, rfl⟩ := unrolls_done_iff.1 told
    have spared : w.Spares w₂ := (spared.trans spared₁).trans (.after others rfl rfl)
    obtain ⟨-, w₅, rest, others, rfl, ran₃⟩ := unrolls_perform_iff.1 ran₂
    obtain ⟨rfl, rfl, -⟩ := unrolls_done_iff.1 ran₃
    refine .inr ⟨?_, ?_, ?_⟩
    · show handlings (steps ++ _ ++ _) = _
      rw [handlings_append, handlings_append, shown]
      rfl
    · exact others.registry.trans (congrArg (·.release e) spared.registry)
    · exact others.settings.trans spared.settings

/-- What a walk along a list of entries shows and leaves behind. -/
structure Walked (results : Entry h → ListenerResult) (ctx : Context) (event : Event)
    (es : List (Entry h)) (w : World h) (path : List (Footstep h)) (w' : World h)
    (r : ListenerResult) : Prop where
  in_order : (handlings path).map (·.entry) = reached results (live w.registry es)
  suited : ∀ d ∈ handlings path, d.Suits ctx event
  answered : r = answer results (live w.registry es)
  registry : w'.registry =
    { w.registry with claimed := claims (handlings path) ++ w.registry.claimed }
  settings : w'.settings = w.settings

/-- Steps that handle an entry after its claim, which stays only if its listener ran or is sure to. -/
structure Handled (ctx : Context) (event : Event) (e : Entry h) (w : World h) (d : Handling h)
    (steps : List (Footstep h)) (w₁ : World h) : Prop where
  shown : handlings steps = [d]
  entry : d.entry = e
  suits : d.Suits ctx event
  registry : w₁.registry = { w.registry with claimed := claims [d] ++ w.registry.claimed }
  settings : w₁.settings = w.settings

/-- A claim of the entry or none is all that is new. -/
theorem Handled.live {d : Handling h} (handled : Handled ctx event e w d path w₁)
    (apart : e.id ∉ es.map (·.id)) : live w₁.registry es = live w.registry es := by
  rw [handled.registry]
  apply live_of_apart
  intro i hi
  obtain ⟨d', mem, -, -, rfl⟩ := mem_claims.1 hi
  rwa [List.mem_singleton.1 mem, handled.entry]

theorem spawned_handled {u : Unit} (unforced : w.settings.forceSync = false)
    (unspent : w.registry.isSpent e = false) (asynchronous : e.options.asynchronous = true)
    (claimed : (w.answer t (.claim e)).2.Spares w₁)
    (ran : (spawnListener ctx e event).Unrolls app Spares t w₁ path w' u) :
    ∃ d, Handled ctx event e w d path w' := by
  have unforced₁ : w₁.settings.forceSync = false := by rw [claimed.settings]; exact unforced
  have registry : w₁.registry = (w.registry.claim e).2 := claimed.registry
  rcases spawnListener_hands unforced₁ ran with ⟨shown, spared⟩ | ⟨shown, released, settings⟩
  · refine ⟨_, shown, rfl, ⟨asynchronous, rfl, rfl⟩, ?_, spared.settings.trans claimed.settings⟩
    rw [spared.registry, registry, Registry.claim_of_unspent unspent, claims_singleton]
    rfl
  · refine ⟨_, shown, rfl, asynchronous, ?_, settings.trans claimed.settings⟩
    rw [released, registry, Registry.release_claim unspent]
    rfl

theorem listened_handled {inner : List (Footstep h)} {r r' : ListenerResult}
    (unspent : w.registry.isSpent e = false) (inline : e.options.asynchronous = false)
    (settles : (app.body (.listener e ctx event)).Settles app t r)
    (claimed : (w.answer t (.claim e)).2.Spares w₁)
    (body : (app.body (.listener e ctx event)).Runs app Spares t w₁ inner w' r') :
    r' = r ∧ Handled ctx event e w (.called e ctx event) [.called (.listener e ctx event)] w' := by
  obtain ⟨rfl, spared⟩ := (settles w₁).1 _ _ _ body
  have registry : w₁.registry = (w.registry.claim e).2 := claimed.registry
  refine ⟨rfl, rfl, rfl, ⟨inline, rfl, rfl⟩, ?_, spared.settings.trans claimed.settings⟩
  rw [spared.registry, registry, Registry.claim_of_unspent unspent, claims_singleton]
  rfl

namespace Walked

variable {r : ListenerResult}

theorem nil (w : World h) : Walked results ctx event [] w [] w (.ok ()) :=
  ⟨rfl, fun _ hd => absurd hd List.not_mem_nil, rfl, rfl, rfl⟩

/-- An entry that was claimed before is passed by. -/
theorem skip (walked : Walked results ctx event es w₁ path w' r) (spent : w.registry.isSpent e = true)
    (others : (w.answer t (.claim e)).2.Spares w₁) :
    Walked results ctx event (e :: es) w (.performed w (.claim e) :: path) w' r := by
  have registry : w₁.registry = w.registry :=
    others.registry.trans (congrArg Prod.snd (Registry.claim_of_spent spent))
  obtain ⟨in_order, suited, answered, claimed, settings⟩ := walked
  rw [registry] at in_order answered claimed
  rw [← live_cons_of_spent spent] at in_order answered
  exact ⟨in_order, suited, answered, claimed, settings.trans others.settings⟩

/-- An entry that does not end the walk. -/
theorem pass {w₂ : World h} {steps : List (Footstep h)} {d : Handling h}
    (walked : Walked results ctx event es w₂ path w' r) (handled : Handled ctx event e w d steps w₂)
    (unspent : w.registry.isSpent e = false) (apart : e.id ∉ es.map (·.id))
    (go : goesOn results e = true) :
    Walked results ctx event (e :: es) w (.performed w (.claim e) :: (steps ++ path)) w' r := by
  have shown : handlings (.performed w (.claim e) :: (steps ++ path)) = d :: handlings path := by
    rw [handlings, List.filterMap_cons_none rfl, ← handlings, handlings_append, handled.shown,
      List.singleton_append]
  obtain ⟨in_order, suited, answered, claimed, settings⟩ := walked
  rw [handled.live apart] at in_order answered
  constructor
  case in_order =>
    rw [shown, List.map_cons, in_order, handled.entry, live_cons_of_unspent unspent,
      reached_cons_of_goesOn go]
  case suited =>
    rw [shown]
    exact List.forall_mem_cons.2 ⟨handled.suits, suited⟩
  case answered => rw [answered, live_cons_of_unspent unspent, answer_cons_of_goesOn go]
  case registry =>
    rw [claimed, handled.registry, shown, claims_cons d (handlings path), List.append_assoc]
  case settings => exact settings.trans handled.settings

/-- An entry that fails inline. -/
theorem stop {d : Handling h} (handled : Handled ctx event e w d path w')
    (unspent : w.registry.isSpent e = false) (go : goesOn results e = false) :
    Walked results ctx event (e :: es) w (.performed w (.claim e) :: path) w' (results e) := by
  have shown : handlings (.performed w (.claim e) :: path) = [d] := by
    rw [handlings, List.filterMap_cons_none rfl, ← handlings, handled.shown]
  constructor
  case in_order =>
    rw [shown, live_cons_of_unspent unspent, reached_cons_of_stops go, List.map_singleton,
      handled.entry]
  case suited =>
    rw [shown]
    exact List.forall_mem_singleton.2 handled.suits
  case answered => rw [live_cons_of_unspent unspent, answer_cons_of_stops go]
  case registry => rw [shown, handled.registry]
  case settings => exact handled.settings

end Walked

/-- What the listeners that are called inline answer, each time and without touching the registry or the
settings. -/
def Inline (app : Application h) (t : Thread) (results : Entry h → ListenerResult) (ctx : Context)
    (event : Event) (es : List (Entry h)) : Prop :=
  ∀ e ∈ es, e.options.asynchronous = false →
    (app.body (.listener e ctx event)).Settles app t (results e)

theorem callListeners_walked {r : ListenerResult} (unforced : w.settings.forceSync = false)
    (ids : (es.map (·.id)).Nodup) (inline : Inline app t results ctx event es)
    (ran : (callListeners event ctx event es).Unrolls app Spares t w path w' r) :
    Walked results ctx event es w path w' r := by
  rw [unrolls_iff_shows] at ran
  obtain ⟨path, ran, rfl⟩ := ran
  induction es generalizing w path with
  | nil =>
    obtain ⟨rfl, rfl, rfl⟩ := shows_done_iff.1 ran
    exact .nil _
  | cons e es ih =>
    obtain ⟨own, later⟩ := List.forall_mem_cons.1 inline
    obtain ⟨apart, ids⟩ := List.nodup_cons.1 ids
    cases walkStep_of_shows ran with
    | skip spent others rest =>
      have unforced₁ := congrArg Settings.forceSync others.settings
      exact (ih (unforced₁.trans unforced) ids later _ rest).skip spent others
    | spawn unspent asynchronous others spawned rest =>
      have spawned := unrolls_iff_shows.2 ⟨_, spawned, rfl⟩
      obtain ⟨d, handled⟩ := spawned_handled unforced unspent asynchronous others spawned
      have walked := ih (by rw [handled.settings, unforced]) ids later _ rest
      rw [List.map_cons, List.map_append]
      exact walked.pass handled unspent apart (goesOn_of_async asynchronous)
    | pass unspent inline others body rest =>
      obtain ⟨result, handled⟩ := listened_handled unspent inline (own inline) others body
      have walked := ih (by rw [handled.settings, unforced]) ids later _ rest
      exact walked.pass handled unspent apart (goesOn_of_ok result.symm)
    | stop unspent inline others body =>
      obtain ⟨result, handled⟩ := listened_handled unspent inline (own inline) others body
      rw [result]
      exact .stop handled unspent (goesOn_of_error inline result.symm)

/-- Meanwhile the others make the pool such that it accepts the job. -/
theorem exists_accepted (unforced : w.settings.forceSync = false) :
    ∃ path w', (spawnListener ctx e event).Unrolls app Spares t w path w' () ∧
      handlings path = [.accepted e ctx event] := by
  let w₁ : World h := { w with pool := .start 1 1 }
  have submitted : ∃ path w', (submit (.listener e ctx event)).Unrolls app Spares t w₁ path w' (.ok ()) :=
    ⟨_, _, .perform rfl (.refl _) (.perform rfl (.refl _) (.perform rfl (.refl _) (.done _ _)))⟩
  obtain ⟨steps, w', submitted⟩ := submitted
  have settings : (w.answer t (.host .settings)).1.forceSync = false := unforced
  have spawned : (spawn event.name .listener (.listener e ctx event)).Unrolls app Spares t w₁
    (steps ++ []) w' true := submitted.bind (.done true w')
  refine ⟨.performed w (.host .settings) :: ((steps ++ []) ++ []), w',
    unrolls_op_bind_iff.2 ⟨rfl, w₁, _, ⟨rfl, rfl⟩, rfl, ?_⟩, ?_⟩
  · rw [settings]
    exact spawned.bind (.done () w')
  · rw [List.append_nil, List.append_nil]
    rcases (submit_hands submitted).2 with ⟨-, shown⟩ | ⟨⟨error, failed⟩, -⟩
    · exact shown
    · cases failed

theorem exists_refused (unforced : w.settings.forceSync = false) :
    ∃ path w', (spawnListener ctx e event).Unrolls app Spares t w path w' () ∧
      handlings path = [.refused e] := by
  let w₁ : World h := { w with pool := { (Pool.start 1 1 : Pool h) with closed := true } }
  have spawned : ∃ path w', (spawn event.name .listener (.listener e ctx event)).Unrolls app Spares t
      w₁ path w' false ∧ handlings path = [] :=
    ⟨_, _, .perform rfl (.refl _) (.perform rfl (.refl _) (.perform rfl (.refl _) (.done _ _))), rfl⟩
  obtain ⟨steps, w₂, spawned, shown⟩ := spawned
  have settings : (w.answer t (.host .settings)).1.forceSync = false := unforced
  refine ⟨.performed w (.host .settings) :: (steps ++ [.performed w₂ (.release e)]),
    (w₂.answer t (.release e)).2,
    unrolls_op_bind_iff.2 ⟨rfl, w₁, _, ⟨rfl, rfl⟩, rfl, ?_⟩, ?_⟩
  · rw [settings]
    exact spawned.bind (.perform rfl (.refl _) (.done () _))
  · show handlings (steps ++ _) = _
    rw [handlings_append, shown]
    rfl

theorem exists_spawned (unforced : w.settings.forceSync = false) {d : Handling h}
    (suits : d.Suits ctx event) (asynchronous : d.entry.options.asynchronous = true) :
    ∃ path w', (spawnListener ctx d.entry event).Unrolls app Spares t w path w' () ∧
      handlings path = [d] := by
  cases d with
  | called e c ev => cases suits.1.symm.trans asynchronous
  | accepted e c ev =>
    obtain ⟨-, rfl, rfl⟩ := suits
    exact exists_accepted unforced
  | refused e => exact exists_refused unforced

/-- Whatever the pool makes of the async entries, a walk can go that way. -/
theorem exists_walk (unforced : w.settings.forceSync = false) (ids : (es.map (·.id)).Nodup)
    (inline : Inline app t results ctx event es) {hs : List (Handling h)}
    (in_order : hs.map (·.entry) = reached results (live w.registry es))
    (suited : ∀ d ∈ hs, d.Suits ctx event) :
    ∃ path w' r, (callListeners event ctx event es).Unrolls app Spares t w path w' r ∧
      handlings path = hs := by
  induction es generalizing w hs with
  | nil =>
    cases List.map_eq_nil_iff.1 in_order
    exact ⟨[], w, .ok (), .done _ _, rfl⟩
  | cons e es ih =>
    have later : Inline app t results ctx event es := fun x hx => inline x (List.mem_cons_of_mem e hx)
    obtain ⟨apart, distinct⟩ := List.nodup_cons.1 ids
    let w₁ := (w.answer t (.claim e)).2
    have claimed : (w.answer t (.claim e)).2.Spares w₁ := .refl w₁
    have unforced₁ : w₁.settings.forceSync = false := unforced
    -- Each case gives the run from the claim on.
    refine Unrolls.exists_op rfl claimed ?_
    show ∃ path w' r, Unrolls app Spares t _ w₁ path w' r ∧ handlings path = hs
    have granted : (w.answer t (.claim e)).1 = (w.registry.claim e).1 := rfl
    rw [granted]
    cases spent : w.registry.isSpent e with
    | true =>
      have claim := Registry.claim_of_spent spent
      have registry : w₁.registry = w.registry := congrArg Prod.snd claim
      rw [live_cons_of_spent spent, ← registry] at in_order
      rw [claim]
      exact ih unforced₁ distinct later in_order suited
    | false =>
      rw [live_cons_of_unspent spent] at in_order
      rw [Registry.claim_of_unspent spent]
      cases asynchronous : e.options.asynchronous with
      | true =>
        rw [reached_cons_of_goesOn (goesOn_of_async asynchronous)] at in_order
        obtain ⟨d, hs, rfl, rfl, follow⟩ := List.map_eq_cons_iff.1 in_order
        obtain ⟨suits, suited⟩ := List.forall_mem_cons.1 suited
        have spawned : ∃ steps w₂, (spawnListener ctx d.entry event).Unrolls app Spares t w₁ steps w₂ () ∧
            handlings steps = [d] := exists_spawned unforced₁ suits asynchronous
        obtain ⟨steps, w₂, spawned, shown⟩ := spawned
        obtain ⟨d', handled⟩ := spawned_handled unforced spent asynchronous claimed spawned
        rw [← handled.live apart] at follow
        obtain ⟨path, w', r, ran, shown'⟩ :=
          ih (by rw [handled.settings, unforced]) distinct later follow suited
        refine ⟨steps ++ path, w', r, spawned.bind ran, ?_⟩
        rw [handlings_append, shown, shown', List.singleton_append]
      | false =>
        have settles := inline e List.mem_cons_self asynchronous
        obtain ⟨inner, w₂, body⟩ := (settles w₁).2
        have listened := Unrolls.listener body (.done _ _)
        obtain ⟨-, handled⟩ := listened_handled spent asynchronous settles claimed body
        cases result : results e with
        | ok u =>
          rw [reached_cons_of_goesOn (goesOn_of_ok result)] at in_order
          obtain ⟨d, hs, rfl, rfl, follow⟩ := List.map_eq_cons_iff.1 in_order
          obtain ⟨suits, suited⟩ := List.forall_mem_cons.1 suited
          rw [← handled.live apart] at follow
          obtain ⟨path, w', r, ran, shown⟩ :=
            ih (by rw [handled.settings, unforced]) distinct later follow suited
          rw [result] at listened
          refine ⟨_, w', r, listened.bind ran, ?_⟩
          rw [handlings_append, handled.shown, shown, suits.eq_called asynchronous]
          rfl
        | error error =>
          rw [reached_cons_of_stops (goesOn_of_error asynchronous result)] at in_order
          obtain ⟨d, rfl, rfl⟩ := List.map_eq_singleton_iff.1 in_order
          have suits := suited d List.mem_cons_self
          rw [result] at listened
          refine ⟨_, w₂, .error error, listened.bind (.done _ _), ?_⟩
          rw [handlings_append, handled.shown, suits.eq_called asynchronous]
          rfl

end Delivery
end EventDispatch
