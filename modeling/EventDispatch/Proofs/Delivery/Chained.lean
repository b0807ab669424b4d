import EventDispatch.Dispatch.Start
import EventDispatch.Proofs.Delivery.InOrder
import Mathlib.Data.List.Nodup

namespace EventDispatch

variable {h : Host}

namespace Reference

variable {results : Entry h → ListenerResult} {es : List (Entry h)} {r : Registry h} {e : Entry h}

theorem reached_sublist (es : List (Entry h)) : (reached results es).Sublist es := by
  have sublist := (List.Sublist.refl (es.takeWhile (goesOn results))).append
    (List.take_sublist 1 (es.dropWhile (goesOn results)))
  rwa [List.takeWhile_append_dropWhile] at sublist

theorem reached_live_sublist (r : Registry h) (es : List (Entry h)) :
    (reached results (live r es)).Sublist es :=
  (reached_sublist _).trans List.filter_sublist

end Reference

namespace Registry

variable {r : Registry h} {name : String} {es : List (Entry h)}

theorem contains_spent {e : Entry h} (ids : (es.map (·.id)).Nodup) (mem : e ∈ es) :
    (r.spent es).contains e.id = r.isSpent e := by
  rw [Bool.eq_iff_iff, List.contains_iff_mem, spent, List.mem_map]
  constructor
  · rintro ⟨x, hx, same⟩
    obtain ⟨listed, spent⟩ := List.mem_filter.1 hx
    rwa [← List.inj_on_of_nodup_map ids listed mem same]
  · intro spent
    exact ⟨e, List.mem_filter.2 ⟨mem, spent⟩, rfl⟩

def cleared (r : Registry h) (name : String) (es : List (Entry h)) : Registry h :=
  if (r.spent es).isEmpty then r else r.removeAll name (r.spent es)

theorem interceptors_cleared : (r.cleared name es).interceptors = r.interceptors := by
  unfold cleared
  split <;> rfl

theorem mem_of_mem_cleared {n : String} {e : Entry h} (mem : e ∈ (r.cleared name es).entries n) :
    e ∈ r.entries n := by
  unfold cleared at mem
  split at mem
  · exact mem
  · exact (mem_entries_removeAll.1 mem).1

end Registry

namespace Delivery

open Program Reference
open World (Spares)

variable {app : Application h} {t : Thread} {ctx : Context} {event : Event} {e : Entry h}
  {es : List (Entry h)} {is : List (Interceptor h)} {w w₁ w₂ w' : World h}
  {path shown : List (Footstep h)} {results : Entry h → ListenerResult}

/-- An interceptor that hands the context and the event on as they are, and the result back. -/
def PassesThrough (app : Application h) (t : Thread) (ctx : Context) (event : Event)
    (i : Interceptor h) : Prop :=
  ∀ w, (∀ path w' v, (app.verdict i ctx event).program.Runs app Spares t w path w' v →
      w.Spares w' ∧ ∃ after, v = .proceed ctx event after ∧ ∀ r, (after r).program.Settles app t r) ∧
    ∃ path w' v, (app.verdict i ctx event).program.Runs app Spares t w path w' v

theorem passesThrough_of_settles {i : Interceptor h} {after : ListenerResult → Script h ListenerResult}
    (verdict : (app.verdict i ctx event).program.Settles app t (.proceed ctx event after))
    (settles : ∀ r, (after r).program.Settles app t r) : PassesThrough app t ctx event i := by
  intro w
  obtain ⟨path, w', ran⟩ := (verdict w).2
  refine ⟨fun path w' v ran => ?_, path, w', _, ran⟩
  obtain ⟨rfl, spared⟩ := (verdict w).1 _ _ _ ran
  exact ⟨spared, after, rfl, settles⟩

theorem passesThrough_logging : PassesThrough app t ctx event .logging := by
  have log : ∀ {α : Type} (n : Notice) (a : α),
      (Program.perform (.host (.log n)) fun _ => .done a : Program h α).Settles app t a :=
    fun n a => settles_perform (fun _ => rfl) (fun _ => ⟨rfl, rfl⟩) fun _ => settles_done a
  refine passesThrough_of_settles (log _ _) fun r => ?_
  cases r with
  | ok u => exact log _ _
  | error e =>
    cases e with
    | stopPropagation => exact log _ _
    | _ => exact log _ _

/-- What surrounds a walk and lets the registry alone does not matter to it. -/
theorem Walked.within {r : ListenerResult} (walked : Walked results ctx event es w₁ shown w₂ r)
    (before : w.Spares w₁) (after : w₂.Spares w') (same : handlings path = handlings shown) :
    Walked results ctx event es w path w' r := by
  obtain ⟨in_order, suited, answered, registry, settings⟩ := walked
  rw [before.registry, ← same] at in_order registry
  rw [before.registry] at answered
  rw [← same] at suited
  exact ⟨in_order, suited, answered, after.registry.trans registry,
    after.settings.trans (settings.trans before.settings)⟩

theorem proceed_walked {r : ListenerResult} (unforced : w.settings.forceSync = false)
    (ids : (es.map (·.id)).Nodup) (inline : Inline app t results ctx event es)
    (chain : ∀ i ∈ is, PassesThrough app t ctx event i)
    (ran : (proceed ⟨is, es, event⟩ ctx event).Unrolls app Spares t w path w' r) :
    Walked results ctx event es w path w' r := by
  induction is generalizing w path w' r with
  | nil => exact callListeners_walked unforced ids inline ran
  | cons i is ih =>
    obtain ⟨passes, rest⟩ := List.forall_mem_cons.1 chain
    cases ran with
    | finish verdict ended =>
      obtain ⟨-, after, proceeds, -⟩ := (passes w).1 _ _ _ verdict
      cases proceeds
    | proceed verdict chained look ended =>
      obtain ⟨spared, after, proceeds, settles⟩ := (passes w).1 _ _ _ verdict
      cases proceeds
      obtain ⟨rfl, spared'⟩ := (settles _ _).1 _ _ _ look
      obtain ⟨rfl, rfl, rfl⟩ := unrolls_done_iff.1 ended
      have walked := ih (by rw [spared.settings, unforced]) rest chained
      refine walked.within spared spared' ?_
      rw [List.append_nil]
      rfl

theorem exists_proceed (unforced : w.settings.forceSync = false) (ids : (es.map (·.id)).Nodup)
    (inline : Inline app t results ctx event es) (chain : ∀ i ∈ is, PassesThrough app t ctx event i)
    {hs : List (Handling h)} (in_order : hs.map (·.entry) = reached results (live w.registry es))
    (suited : ∀ d ∈ hs, d.Suits ctx event) :
    ∃ path w' r, (proceed ⟨is, es, event⟩ ctx event).Unrolls app Spares t w path w' r ∧
      handlings path = hs := by
  induction is generalizing w with
  | nil => exact exists_walk unforced ids inline in_order suited
  | cons i is ih =>
    obtain ⟨passes, rest⟩ := List.forall_mem_cons.1 chain
    obtain ⟨first, w₁, v, verdict⟩ := (passes w).2
    obtain ⟨spared, after, rfl, settles⟩ := (passes w).1 _ _ _ verdict
    rw [← spared.registry] at in_order
    obtain ⟨shown, w₂, r, chained, handled⟩ := ih (by rw [spared.settings, unforced]) rest in_order
    obtain ⟨last, w₃, look⟩ := (settles r w₂).2
    refine ⟨_, w₃, r, .proceed verdict chained look (.done r w₃), ?_⟩
    rw [List.append_nil]
    exact handled

/-- All that a delivery shows, answers and leaves behind. -/
structure Delivered (results : Entry h → ListenerResult) (ctx : Context) (event : Event) (w : World h)
    (path : List (Footstep h)) (w' : World h) (r : DispatchResult) : Prop where
  /-- The live entries are handled in order, up to the first that fails inline. -/
  in_order : (handlings path).map (·.entry) =
    reached results (live w.registry (w.registry.entries event.name))
  suited : ∀ d ∈ handlings path, d.Suits ctx event
  succeeded : r = .ok () ↔
    ∀ e, failure? results (live w.registry (w.registry.entries event.name)) = some e →
      results e = .error .stopPropagation
  failed : ∀ e error, failure? results (live w.registry (w.registry.entries event.name)) = some e →
    results e = .error error → error ≠ .stopPropagation → r = .error (.listener event.name error)
  /-- What is left under the name are the entries that are not spent now. -/
  kept : w'.registry.entries event.name =
    (w.registry.entries event.name).filter fun e => !w'.registry.isSpent e
  /-- The spent entries are those that were so before, and the `once` entries that ran. -/
  spent : ∀ e ∈ w.registry.entries event.name, w'.registry.isSpent e = true ↔
    w.registry.isSpent e = true ∨
      e.options.once = true ∧ ∃ d ∈ handlings path, d.entry = e ∧ d.ran = true
  /-- Whoever was not reached is still there for the next delivery. -/
  unreached : ∀ e ∈ w.registry.entries event.name, w.registry.isSpent e = false →
    e ∉ (handlings path).map (·.entry) →
    e ∈ w'.registry.entries event.name ∧ w'.registry.isSpent e = false
  /-- So is whoever the pool refused. -/
  handed_back : ∀ e, .refused e ∈ handlings path →
    e ∈ w'.registry.entries event.name ∧ w'.registry.isSpent e = false
  elsewhere : ∀ name, name ≠ event.name → w'.registry.entries name = w.registry.entries name
  interceptors : w'.registry.interceptors = w.registry.interceptors

def sweep (event : Event) (es : List (Entry h)) (r : ListenerResult) : Program h DispatchResult :=
  (op (.spent es)).bind fun ids =>
    if !ids.isEmpty then (op (.removeAll event.name ids)).bind fun _ => .done (outcome event.name r)
    else .done (outcome event.name r)

theorem deliver_eq (ctx : Context) (event : Event) :
    (deliver ctx event : Program h DispatchResult) = (op (.snapshot event.name)).bind fun snapshot =>
      (proceed ⟨snapshot.interceptors, snapshot.entries, event⟩ ctx event).bind
        (sweep event snapshot.entries) :=
  rfl

/-- After a delivery what is spent is out of the list, and nothing else has changed. -/
structure Swept (event : Event) (es : List (Entry h)) (r r' : Registry h) : Prop where
  kept : r'.entries event.name = es.filter fun e => !r.isSpent e
  elsewhere : ∀ name, name ≠ event.name → r'.entries name = r.entries name
  claimed : r'.claimed = r.claimed
  interceptors : r'.interceptors = r.interceptors

theorem swept_cleared {r : Registry h} (ids : (es.map (·.id)).Nodup)
    (listed : r.entries event.name = es) : Swept event es r (r.cleared event.name es) := by
  have spent : es.filter (fun e => !(r.spent es).contains e.id) = es.filter fun e => !r.isSpent e :=
    List.filter_congr fun e mem => by rw [Registry.contains_spent ids mem]
  unfold Registry.cleared
  split
  · next none =>
    refine ⟨?_, fun name _ => rfl, rfl, rfl⟩
    rw [listed, ← spent, List.isEmpty_iff.1 none]
    exact (List.filter_eq_self.2 fun e _ => rfl).symm
  · refine ⟨?_, fun name other => ?_, rfl, rfl⟩
    · rw [Registry.removeAll, Registry.entries_put, if_pos rfl, listed, spent]
    · rw [Registry.removeAll, Registry.entries_put, if_neg (Ne.symm other)]

theorem sweep_clears {r : ListenerResult} {answer : DispatchResult}
    (ran : (sweep event es r).Unrolls app Spares t w path w' answer) :
    handlings path = [] ∧ answer = outcome event.name r ∧
      w'.registry = w.registry.cleared event.name es ∧ w'.settings = w.settings := by
  obtain ⟨-, w₁, rest, others, rfl, ran₁⟩ := unrolls_op_bind_iff.1 ran
  have spared : w.Spares w₁ := .after others rfl rfl
  have found : (w.answer t (.spent es)).1 = w.registry.spent es := rfl
  rw [found] at ran₁
  unfold Registry.cleared
  cases none : (w.registry.spent es).isEmpty with
  | true =>
    rw [none] at ran₁
    obtain ⟨rfl, rfl, rfl⟩ := unrolls_done_iff.1 ran₁
    exact ⟨rfl, rfl, spared.registry, spared.settings⟩
  | false =>
    rw [none] at ran₁
    obtain ⟨-, w₂, rest, others', rfl, ran₂⟩ := unrolls_op_bind_iff.1 ran₁
    obtain ⟨rfl, rfl, rfl⟩ := unrolls_done_iff.1 ran₂
    refine ⟨rfl, rfl, others'.registry.trans ?_, others'.settings.trans spared.settings⟩
    exact congrArg (·.removeAll event.name (w.registry.spent es)) spared.registry

theorem sweep_sweeps {r : ListenerResult} {answer : DispatchResult} (ids : (es.map (·.id)).Nodup)
    (listed : w.registry.entries event.name = es)
    (ran : (sweep event es r).Unrolls app Spares t w path w' answer) :
    Swept event es w.registry w'.registry ∧ handlings path = [] ∧ answer = outcome event.name r := by
  obtain ⟨none, answered, registry, -⟩ := sweep_clears ran
  rw [registry]
  exact ⟨swept_cleared ids listed, none, answered⟩

/-- Whatever the others may do, they may do nothing. -/
theorem exists_idle_sweep {meanwhile : World h → World h → Prop} (idle : ∀ v, meanwhile v v)
    (app : Application h) (t : Thread) (event : Event) (w : World h) (es : List (Entry h))
    (r : ListenerResult) : ∃ path w', (sweep event es r).Unrolls app meanwhile t w path w'
      (outcome event.name r) := by
  suffices ended : ∃ path w', (if !(w.registry.spent es).isEmpty then
      (op (.removeAll event.name (w.registry.spent es))).bind fun _ =>
        .done (outcome event.name r)
      else .done (outcome event.name r) : Program h DispatchResult).Unrolls app meanwhile t w path w'
        (outcome event.name r) by
    obtain ⟨path, w', ran⟩ := ended
    exact ⟨_, w', unrolls_op_bind_iff.2 ⟨rfl, w, path, idle w, rfl, ran⟩⟩
  split
  · exact ⟨_, _, .perform rfl (idle _) (.done _ _)⟩
  · exact ⟨_, _, .done _ _⟩

theorem exists_sweep (app : Application h) (t : Thread) (event : Event) (w : World h)
    (es : List (Entry h)) (r : ListenerResult) :
    ∃ path w' answer, (sweep event es r).Unrolls app Spares t w path w' answer := by
  obtain ⟨path, w', ran⟩ := exists_idle_sweep World.Spares.refl app t event w es r
  exact ⟨path, w', _, ran⟩

theorem outcome_of_failure {name : String} {error : ListenerError} (other : error ≠ .stopPropagation) :
    outcome name (.error error) = .error (.listener name error) := by
  cases error with
  | stopPropagation => exact absurd rfl other
  | _ => rfl

theorem outcome_answer_eq_ok_iff {name : String} :
    outcome name (answer results es) = .ok () ↔
      ∀ e, failure? results es = some e → results e = .error .stopPropagation := by
  unfold answer
  cases found : failure? results es with
  | none => exact iff_of_true rfl fun e none => by cases none
  | some e =>
    have stops := List.find?_some found
    show outcome name (results e) = .ok () ↔ _
    cases result : results e with
    | ok u =>
      rw [goesOn_of_ok result] at stops
      cases stops
    | error error =>
      by_cases other : error = .stopPropagation
      · subst other
        refine iff_of_true rfl fun e' same => ?_
        cases same
        exact result
      · rw [outcome_of_failure other]
        refine iff_of_false nofun fun all => other ?_
        exact Except.error.inj (result.symm.trans (all e rfl))

/-- Who is spent after a walk. -/
theorem Walked.isSpent_iff {r : ListenerResult} (ids : (es.map (·.id)).Nodup)
    (walked : Walked results ctx event es w path w' r) (mem : e ∈ es) :
    w'.registry.isSpent e = true ↔ w.registry.isSpent e = true ∨
      e.options.once = true ∧ ∃ d ∈ handlings path, d.entry = e ∧ d.ran = true := by
  rw [walked.registry, Registry.isSpent, Registry.isSpent, Bool.and_eq_true, Bool.and_eq_true,
    List.contains_iff_mem, List.contains_iff_mem, List.mem_append, mem_claims]
  constructor
  · rintro ⟨once, ⟨d, handled, ran, -, same⟩ | before⟩
    · -- Entries with one id are one entry.
      have listed := (reached_live_sublist w.registry es).subset
        (walked.in_order ▸ List.mem_map_of_mem handled)
      exact .inr ⟨once, d, handled, List.inj_on_of_nodup_map ids listed mem same, ran⟩
    · exact .inl ⟨once, before⟩
  · rintro (⟨once, before⟩ | ⟨once, d, handled, rfl, ran⟩)
    · exact ⟨once, .inr before⟩
    · exact ⟨once, .inl ⟨d, handled, ran, once, rfl⟩⟩

theorem Walked.isSpent_of_unreached {r : ListenerResult} (ids : (es.map (·.id)).Nodup)
    (walked : Walked results ctx event es w path w' r) (mem : e ∈ es)
    (unspent : w.registry.isSpent e = false) (unreached : e ∉ (handlings path).map (·.entry)) :
    w'.registry.isSpent e = false := by
  rw [← Bool.not_eq_true, walked.isSpent_iff ids mem, unspent]
  rintro (before | ⟨-, d, handled, rfl, -⟩)
  · cases before
  · exact unreached (List.mem_map_of_mem handled)

theorem Walked.isSpent_of_refused {r : ListenerResult} (ids : (es.map (·.id)).Nodup)
    (walked : Walked results ctx event es w path w' r) (refused : .refused e ∈ handlings path) :
    e ∈ es ∧ w'.registry.isSpent e = false := by
  have reached : e ∈ reached results (live w.registry es) :=
    walked.in_order ▸ List.mem_map_of_mem refused
  have mem := (reached_live_sublist w.registry es).subset reached
  have live : e ∈ live w.registry es := (reached_sublist _).subset reached
  have unspent : w.registry.isSpent e = false := by
    simpa only [Bool.not_eq_true'] using (List.mem_filter.1 live).2
  -- No entry is handled twice.
  have once : ((handlings path).map (·.entry)).Nodup :=
    walked.in_order ▸ ids.of_map.sublist (reached_live_sublist w.registry es)
  refine ⟨mem, ?_⟩
  rw [← Bool.not_eq_true, walked.isSpent_iff ids mem, unspent]
  rintro (before | ⟨-, d, handled, same, ran⟩)
  · cases before
  · cases List.inj_on_of_nodup_map once handled refused same
    cases ran

theorem deliver_delivered {answer : DispatchResult} (unforced : w.settings.forceSync = false)
    (ids : ((w.registry.entries event.name).map (·.id)).Nodup)
    (chain : ∀ i ∈ w.registry.interceptors, PassesThrough app t ctx event i)
    (inline : Inline app t results ctx event (w.registry.entries event.name))
    (ran : (deliver ctx event).Unrolls app Spares t w path w' answer) :
    Delivered results ctx event w path w' answer := by
  rw [deliver_eq] at ran
  obtain ⟨-, w₁, rest, others, rfl, ran₁⟩ := unrolls_op_bind_iff.1 ran
  have spared : w.Spares w₁ := .after others rfl rfl
  obtain ⟨walk, w₂, r, last, rfl, proceeded, ran₂⟩ := ran₁.of_bind
  have walked : Walked results ctx event (w.registry.entries event.name) w walk w₂ r :=
    (proceed_walked (by rw [spared.settings, unforced]) ids inline chain proceeded).within spared
      (.refl w₂) rfl
  have listed : w₂.registry.entries event.name = w.registry.entries event.name := by
    rw [walked.registry]
    rfl
  obtain ⟨swept, none, rfl⟩ := sweep_sweeps ids listed ran₂
  have shown : handlings (.performed w (.snapshot event.name) :: (walk ++ last)) = handlings walk := by
    rw [handlings, List.filterMap_cons_none rfl, ← handlings, handlings_append, none, List.append_nil]
  have spent : ∀ e, w'.registry.isSpent e = w₂.registry.isSpent e := by
    intro e
    rw [Registry.isSpent, swept.claimed, Registry.isSpent]
  have kept : w'.registry.entries event.name =
      (w.registry.entries event.name).filter fun e => !w'.registry.isSpent e := by
    rw [swept.kept]
    exact List.filter_congr fun e _ => by rw [spent]
  -- An entry that is not spent now is still there.
  have stays : ∀ e ∈ w.registry.entries event.name, w₂.registry.isSpent e = false →
      e ∈ w'.registry.entries event.name ∧ w'.registry.isSpent e = false := by
    intro e mem unspent
    rw [← spent] at unspent
    exact ⟨kept ▸ List.mem_filter.2 ⟨mem, by rw [unspent, Bool.not_false]⟩, unspent⟩
  constructor
  case in_order =>
    rw [shown]
    exact walked.in_order
  case suited =>
    rw [shown]
    exact walked.suited
  case succeeded =>
    rw [walked.answered]
    exact outcome_answer_eq_ok_iff
  case failed =>
    intro e error failed result other
    rw [walked.answered, answer, failed]
    exact (congrArg (outcome event.name) result).trans (outcome_of_failure other)
  case kept => exact kept
  case spent =>
    intro e mem
    rw [spent, shown]
    exact walked.isSpent_iff ids mem
  case unreached =>
    intro e mem unspent unreached
    rw [shown] at unreached
    exact stays e mem (walked.isSpent_of_unreached ids mem unspent unreached)
  case handed_back =>
    intro e refused
    rw [shown] at refused
    obtain ⟨mem, unspent⟩ := walked.isSpent_of_refused ids refused
    exact stays e mem unspent
  case elsewhere =>
    intro name other
    rw [swept.elsewhere name other, walked.registry]
    rfl
  case interceptors => rw [swept.interceptors, walked.registry]

/-- A delivery does what its reference says: it handles the live entries in order, up to the first that
fails inline, and answers and sweeps accordingly. Whatever the pool makes of the async entries on the
way, some delivery goes that way to its end. -/
theorem deliver_as_reference (unforced : w.settings.forceSync = false)
    (ids : ((w.registry.entries event.name).map (·.id)).Nodup)
    (chain : ∀ i ∈ w.registry.interceptors, PassesThrough app t ctx event i)
    (inline : Inline app t results ctx event (w.registry.entries event.name)) :
    (∀ path w' r, (deliver ctx event).Unrolls app Spares t w path w' r →
      Delivered results ctx event w path w' r) ∧
    ∀ hs : List (Handling h),
      hs.map (·.entry) = reached results (live w.registry (w.registry.entries event.name)) →
      (∀ d ∈ hs, d.Suits ctx event) →
      ∃ path w' r, (deliver ctx event).Unrolls app Spares t w path w' r ∧ handlings path = hs := by
  refine ⟨fun path w' r ran => deliver_delivered unforced ids chain inline ran, ?_⟩
  intro hs in_order suited
  obtain ⟨walk, w₂, r, proceeded, shown⟩ := exists_proceed unforced ids inline chain in_order suited
  obtain ⟨last, w', answer, swept⟩ :=
    exists_sweep app t event w₂ (w.registry.entries event.name) r
  have listed : w₂.registry.entries event.name = w.registry.entries event.name := by
    rw [(proceed_walked unforced ids inline chain proceeded).registry]
    rfl
  have none := (sweep_sweeps ids listed swept).2.1
  refine ⟨.performed w (.snapshot event.name) :: (walk ++ last), w', answer, ?_, ?_⟩
  · rw [deliver_eq]
    exact unrolls_op_bind_iff.2 ⟨rfl, w, _, .refl _, rfl, proceeded.bind swept⟩
  · show handlings (walk ++ last) = hs
    rw [handlings_append, none, List.append_nil, shown]

abbrev toldHost : Host := ⟨ListenerResult, Empty, Empty, Unit, Unit, Empty⟩

def told : Application toldHost where
  listen r _ _ := return r
  intercept i := nomatch i
  run e := nomatch e

def tell (id : Nat) (asynchronous : Bool) (r : ListenerResult) : Entry toldHost :=
  ⟨id, .plain r, ⟨0, asynchronous, true⟩⟩

def toldResult (e : Entry toldHost) : ListenerResult :=
  match e.handler with
  | .plain r => r
  | .typed _ r => r

/-- The first was claimed before, the second and the third are async, and the fifth fails. -/
def assembled : List (Entry toldHost) :=
  [tell 1 false (.ok ()), tell 2 true (.ok ()), tell 3 true (.error .cancelled), tell 4 false (.ok ()),
    tell 5 false (.error (.other "no")), tell 6 false (.ok ())]

def hall : World toldHost :=
  { World.start default none () with
    registry := ⟨Keyed.empty.insert "n" assembled, [.logging], [1]⟩ }

def news : Event := .raw ⟨"n", ⟨"null"⟩, .epoch, none⟩

def heard : List (Handling toldHost) :=
  [.refused (tell 2 true (.ok ())), .accepted (tell 3 true (.error .cancelled)) .background news,
    .called (tell 4 false (.ok ())) .background news,
    .called (tell 5 false (.error (.other "no"))) .background news]

theorem refused_and_unreached_kept : ∃ path w' r,
    (deliver .background news).Unrolls told Spares .main hall path w' r ∧ handlings path = heard ∧
      r = .error (.listener "n" (.other "no")) ∧
      w'.registry.entries "n" = [tell 2 true (.ok ()), tell 6 false (.ok ())] := by
  have listed : hall.registry.entries news.name = assembled := by decide +kernel
  have inline : Inline told .main toldResult .background news (hall.registry.entries news.name) := by
    intro e mem _
    rw [listed, assembled] at mem
    simp only [List.mem_cons, List.not_mem_nil, or_false] at mem
    rcases mem with rfl | rfl | rfl | rfl | rfl | rfl <;> exact settles_done _
  have chain : ∀ i ∈ hall.registry.interceptors, PassesThrough told .main .background news i := by
    intro i mem
    cases List.mem_singleton.1 mem
    exact passesThrough_logging
  obtain ⟨all, ways⟩ := deliver_as_reference (w := hall) rfl (by decide +kernel) chain inline
  obtain ⟨path, w', r, ran, shown⟩ := ways heard (by decide +kernel) (by
    intro d mem
    simp only [heard, List.mem_cons, List.not_mem_nil, or_false] at mem
    rcases mem with rfl | rfl | rfl | rfl
    · exact rfl
    all_goals exact ⟨rfl, rfl, rfl⟩)
  have delivered := all path w' r ran
  refine ⟨path, w', r, ran, shown, ?_, ?_⟩
  · have first : failure? toldResult (live hall.registry (hall.registry.entries news.name)) =
      some (tell 5 false (.error (.other "no"))) := by decide +kernel
    exact delivered.failed _ _ first rfl (by decide)
  · have spent := delivered.spent
    have kept := delivered.kept
    rw [shown] at spent
    rw [listed] at spent kept
    have gone : ∀ e ∈ assembled, (hall.registry.isSpent e = true ∨ e.options.once = true ∧
        ∃ d ∈ heard, d.entry = e ∧ d.ran = true) ↔ (e.id != 2 && e.id != 6) = true := by
      decide +kernel
    have swept : ∀ e ∈ assembled, w'.registry.isSpent e = (e.id != 2 && e.id != 6) :=
      fun e mem => Bool.eq_iff_iff.2 ((spent e mem).trans (gone e mem))
    refine kept.trans ((List.filter_congr fun e mem => by rw [swept e mem]).trans ?_)
    rfl

end Delivery
end EventDispatch
