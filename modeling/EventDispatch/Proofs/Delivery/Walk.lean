import EventDispatch.Proofs.Delivery.WalkStep

namespace EventDispatch

variable {h : Host}

namespace Sight

def skipped? : Sight h → Option Nat
  | .performed found (.claim e) => if found.registry.isSpent e then some e.id else none
  | _ => none

def answer? : Sight h → Option (Nat × ListenerResult)
  | .heard e _ _ r => some (e.id, r)
  | _ => none

def handled (path : List (Sight h)) : List (Handling h) := handlings (path.map footstep)

def skipped (path : List (Sight h)) : List Nat := path.filterMap skipped?

def answers (path : List (Sight h)) : List (Nat × ListenerResult) := path.filterMap answer?

def result (path : List (Sight h)) (e : Entry h) : ListenerResult :=
  ((answers path).lookup e.id).getD (.ok ())

variable {first rest path steps : List (Sight h)} {s : Sight h} {w : World h} {e : Entry h}
  {es : List (Entry h)} {d : Handling h}

theorem handled_append : handled (first ++ rest) = handled first ++ handled rest := by
  rw [handled, List.map_append, handlings_append]
  rfl

theorem handled_cons_none (none : s.footstep.handling? = none) :
    handled (s :: rest) = handled rest :=
  List.filterMap_cons_none none

theorem skipped_append : skipped (first ++ rest) = skipped first ++ skipped rest :=
  List.filterMap_append

theorem answers_append : answers (first ++ rest) = answers first ++ answers rest :=
  List.filterMap_append

theorem skipped_cons_of_spent (spent : w.registry.isSpent e = true) :
    skipped (.performed w (.claim e) :: rest) = e.id :: skipped rest :=
  List.filterMap_cons_some (by rw [skipped?, if_pos spent])

theorem skipped_cons_of_unspent (unspent : w.registry.isSpent e = false) :
    skipped (.performed w (.claim e) :: rest) = skipped rest :=
  List.filterMap_cons_none (by rw [skipped?, unspent]; rfl)

structure Aside (steps : List (Sight h)) : Prop where
  shown : handled steps = []
  skips : skipped steps = []
  hears : answers steps = []

/-- Steps that are all about one entry. -/
structure Turn (e : Entry h) (steps : List (Sight h)) (d : Handling h) : Prop where
  shown : handled steps = [d]
  entry : d.entry = e
  called : e.options.asynchronous = false → ∃ ctx event, d = .called e ctx event
  skips : skipped steps = []
  hears : ∀ x ∈ answers steps, x.1 = e.id

theorem Aside.append (aside : Aside first) (last : Aside rest) : Aside (first ++ rest) := by
  constructor
  · rw [handled_append, aside.shown, last.shown, List.nil_append]
  · rw [skipped_append, aside.skips, last.skips, List.nil_append]
  · rw [answers_append, aside.hears, last.hears, List.nil_append]

/-- A path with other steps before it and after it. -/
theorem Aside.around (aside : Aside first) (path : List (Sight h)) (last : Aside rest) :
    handled (first ++ (path ++ rest)) = handled path ∧
      skipped (first ++ (path ++ rest)) = skipped path ∧
      answers (first ++ (path ++ rest)) = answers path := by
  refine ⟨?_, ?_, ?_⟩
  · rw [handled_append, handled_append, aside.shown, last.shown, List.nil_append, List.append_nil]
  · rw [skipped_append, skipped_append, aside.skips, last.skips, List.nil_append, List.append_nil]
  · rw [answers_append, answers_append, aside.hears, last.hears, List.nil_append, List.append_nil]

theorem Turn.heard (e : Entry h) (ctx : Context) (event : Event) (r : ListenerResult) :
    Turn e [.heard e ctx event r] (.called e ctx event) := by
  refine ⟨rfl, rfl, fun _ => ⟨ctx, event, rfl⟩, rfl, fun x hx => ?_⟩
  rw [List.mem_singleton.1 hx]

theorem Turn.around (turn : Turn e steps d) (aside : Aside first) (last : Aside rest) :
    Turn e (first ++ (steps ++ rest)) d := by
  obtain ⟨shown, skips, hears⟩ := aside.around steps last
  constructor
  case shown => rw [shown, turn.shown]
  case entry => exact turn.entry
  case called => exact turn.called
  case skips => rw [skips, turn.skips]
  case hears =>
    rw [hears]
    exact turn.hears

open Delivery Reference

/-- A walk along these entries handles them in order, up to the first that fails inline, and passes by
those that were claimed at their turn. -/
structure Walk (es : List (Entry h)) (path : List (Sight h)) : Prop where
  in_order : (handled path).map (·.entry) =
    reached (result path) (es.filter fun e => !(skipped path).contains e.id)
  called : ∀ d ∈ handled path, d.entry.options.asynchronous = false →
    ∃ ctx event, d = .called d.entry ctx event
  skips : ∀ i ∈ skipped path, i ∈ es.map (·.id)
  hears : ∀ x ∈ answers path, x.1 ∈ es.map (·.id)

namespace Walk

theorem of_eq (walk : Walk es path) (shown : handled rest = handled path)
    (skips : skipped rest = skipped path) (hears : answers rest = answers path) : Walk es rest := by
  have results : result rest = result path := by
    funext e
    rw [result, hears, result]
  constructor
  case in_order =>
    rw [shown, skips, results]
    exact walk.in_order
  case called =>
    rw [shown]
    exact walk.called
  case skips =>
    rw [skips]
    exact walk.skips
  case hears =>
    rw [hears]
    exact walk.hears

theorem around (walk : Walk es path) (aside : Aside first) (last : Aside rest) :
    Walk es (first ++ (path ++ rest)) := by
  obtain ⟨shown, skips, hears⟩ := aside.around path last
  exact walk.of_eq shown skips hears

theorem nil : Walk (h := h) [] [] :=
  ⟨rfl, fun _ hd => absurd hd List.not_mem_nil, fun _ hi => absurd hi List.not_mem_nil,
    fun _ hx => absurd hx List.not_mem_nil⟩

/-- What is skipped of the entries after this one does not matter for it. -/
theorem not_mem_skipped (walk : Walk es path) (apart : e.id ∉ es.map (·.id)) :
    e.id ∉ skipped path := fun mem => apart (walk.skips _ mem)

theorem skip (walk : Walk es path) (spent : w.registry.isSpent e = true)
    (apart : e.id ∉ es.map (·.id)) : Walk (e :: es) (.performed w (.claim e) :: path) := by
  have shown : handled (.performed w (.claim e) :: path) = handled path := handled_cons_none rfl
  have results : result (.performed w (.claim e) :: path) = result path := rfl
  have gone : (e :: es).filter (fun x => !(e.id :: skipped path).contains x.id) =
      es.filter fun x => !(skipped path).contains x.id := by
    rw [List.filter_cons_of_neg (by simp)]
    apply List.filter_congr
    intro x hx
    have other : (x.id == e.id) = false := by
      apply beq_false_of_ne
      intro same
      exact apart (same ▸ List.mem_map_of_mem hx)
    rw [List.contains_cons, other, Bool.false_or]
  constructor
  case in_order =>
    rw [shown, skipped_cons_of_spent spent, results, gone]
    exact walk.in_order
  case called =>
    rw [shown]
    exact walk.called
  case skips =>
    rw [skipped_cons_of_spent spent]
    exact List.forall_mem_cons.2
      ⟨List.mem_cons_self, fun i hi => List.mem_cons_of_mem _ (walk.skips i hi)⟩
  case hears => exact fun x hx => List.mem_cons_of_mem _ (walk.hears x hx)

theorem pass (walk : Walk es path) (turn : Turn e steps d)
    (unspent : w.registry.isSpent e = false) (apart : e.id ∉ es.map (·.id))
    (go : e.options.asynchronous = true ∨ answers steps = [(e.id, .ok ())]) :
    Walk (e :: es) (.performed w (.claim e) :: (steps ++ path)) := by
  have shown : handled (.performed w (.claim e) :: (steps ++ path)) = d :: handled path := by
    rw [handled_cons_none rfl, handled_append, turn.shown, List.singleton_append]
  have skips : skipped (.performed w (.claim e) :: (steps ++ path)) = skipped path := by
    rw [skipped_cons_of_unspent unspent, skipped_append, turn.skips, List.nil_append]
  have hears : answers (.performed w (.claim e) :: (steps ++ path)) =
      answers steps ++ answers path := answers_append
  have own : goesOn (result (.performed w (.claim e) :: (steps ++ path))) e = true := by
    rcases go with asynchronous | ok
    · exact goesOn_of_async asynchronous
    · apply goesOn_of_ok (u := ())
      rw [result, hears, ok, List.singleton_append, List.lookup_cons_self, Option.getD_some]
  have others : ∀ x ∈ es.filter fun x => !(skipped path).contains x.id,
      result (.performed w (.claim e) :: (steps ++ path)) x = result path x := by
    intro x hx
    have mem : x.id ∈ es.map (·.id) := List.mem_map_of_mem (List.mem_filter.1 hx).1
    have unheard : (answers steps).lookup x.id = none := by
      apply List.lookup_eq_none_iff.2
      intro y hy
      rw [turn.hears y hy, bne_iff_ne]
      intro same
      exact apart (same ▸ mem)
    rw [result, hears, List.lookup_append, unheard, Option.none_or, ← result]
  have kept : (e :: es).filter (fun x => !(skipped path).contains x.id) =
      e :: es.filter fun x => !(skipped path).contains x.id :=
    List.filter_cons_of_pos (by simpa using walk.not_mem_skipped apart)
  constructor
  case in_order =>
    rw [shown, skips, kept, reached_cons_of_goesOn own, reached_congr others, List.map_cons,
      walk.in_order, turn.entry]
  case called =>
    rw [shown]
    refine List.forall_mem_cons.2 ⟨?_, walk.called⟩
    rw [turn.entry]
    exact turn.called
  case skips =>
    rw [skips]
    exact fun i hi => List.mem_cons_of_mem _ (walk.skips i hi)
  case hears =>
    rw [hears]
    intro x hx
    rcases List.mem_append.1 hx with own | later
    · rw [turn.hears x own]
      exact List.mem_cons_self
    · exact List.mem_cons_of_mem _ (walk.hears x later)

/-- An entry that fails inline ends the walk. -/
theorem stop {ctx : Context} {event : Event} {error : ListenerError}
    (unspent : w.registry.isSpent e = false) (inline : e.options.asynchronous = false) :
    Walk (e :: es) [.performed w (.claim e), .heard e ctx event (.error error)] := by
  have skips : skipped [.performed w (.claim e), .heard e ctx event (.error error)] = [] :=
    skipped_cons_of_unspent unspent
  have hears : answers [.performed w (.claim e), .heard e ctx event (.error error)] =
      [(e.id, .error error)] := rfl
  have failed : result [.performed w (.claim e), .heard e ctx event (.error error)] e =
      .error error := by
    rw [result, hears, List.lookup_cons_self, Option.getD_some]
  constructor
  case in_order =>
    rw [skips, List.filter_cons_of_pos rfl, reached_cons_of_stops (goesOn_of_error inline failed)]
    rfl
  case called =>
    intro d hd _
    cases List.mem_singleton.1 hd
    exact ⟨ctx, event, rfl⟩
  case skips =>
    rw [skips]
    exact fun _ hi => absurd hi List.not_mem_nil
  case hears =>
    intro x hx
    cases List.mem_singleton.1 hx
    exact List.mem_cons_self

end Walk
end Sight

namespace Delivery

open Program Sight

variable {app : Application h} {meanwhile : World h → World h → Prop} {t : Thread} {ctx : Context}
  {event dispatched : Event} {e : Entry h} {es : List (Entry h)} {w w' : World h}
  {path : List (Sight h)}

theorem submit_turn {r : Except PoolError Unit} (asynchronous : e.options.asynchronous = true)
    (ran : (submit (.listener e ctx event)).Shows app meanwhile t w path w' r) :
    r = .ok () ∧ Turn e path (.accepted e ctx event) ∨ (∃ error, r = .error error) ∧ Aside path := by
  obtain ⟨-, w₁, rest, -, rfl, ran₁⟩ := shows_op_bind_iff.1 ran
  split at ran₁
  · obtain ⟨-, w₂, rest, -, rfl, ran₂⟩ := shows_op_bind_iff.1 ran₁
    obtain ⟨rfl, -, rfl⟩ := shows_done_iff.1 ran₂
    exact .inr ⟨⟨_, rfl⟩, rfl, rfl, rfl⟩
  · obtain ⟨-, w₂, rest, -, rfl, ran₂⟩ := shows_op_bind_iff.1 ran₁
    have answer : (w₁.answer t (.enqueue (.listener e ctx event))).1 =
      (w₁.pool.enqueue (.listener e ctx event)).1 := rfl
    rw [answer] at ran₂
    split at ran₂
    · next accepted =>
      obtain ⟨-, w₃, rest, -, rfl, ran₃⟩ := shows_op_bind_iff.1 ran₂
      obtain ⟨rfl, -, rfl⟩ := shows_done_iff.1 ran₃
      refine .inl ⟨rfl, ?_, rfl, fun inline => ?_, rfl, fun _ hx => absurd hx List.not_mem_nil⟩
      · rw [handled_cons_none rfl]
        exact List.filterMap_cons_some (Footstep.handling?_of_accepted accepted)
      · cases inline.symm.trans asynchronous
    · next refused =>
      obtain ⟨-, w₃, rest, -, rfl, ran₃⟩ := shows_op_bind_iff.1 ran₂
      obtain ⟨rfl, -, rfl⟩ := shows_done_iff.1 ran₃
      refine .inr ⟨⟨_, rfl⟩, ?_, rfl, rfl⟩
      have offered : (Sight.performed w₁ (.enqueue (.listener e ctx event))).footstep.handling? =
        none := Footstep.handling?_of_refused refused
      rw [handled_cons_none rfl, handled_cons_none offered]
      rfl

theorem logListenerFailure_aside {id : Nat} {r : ListenerResult} {u : Unit}
    (ran : (logListenerFailure id event r).Shows app meanwhile t w path w' u) : Aside path := by
  unfold logListenerFailure at ran
  split at ran
  · obtain ⟨rfl, -, -⟩ := shows_done_iff.1 ran
    exact ⟨rfl, rfl, rfl⟩
  · obtain ⟨rfl, -, -⟩ := shows_done_iff.1 ran
    exact ⟨rfl, rfl, rfl⟩
  · obtain ⟨-, w₁, rest, -, rfl, ran₁⟩ := shows_perform_iff.1 ran
    obtain ⟨rfl, -, -⟩ := shows_done_iff.1 ran₁
    exact ⟨rfl, rfl, rfl⟩

/-- An async entry is handled once, in one of the three ways. -/
theorem spawnListener_turn {u : Unit} (asynchronous : e.options.asynchronous = true)
    (ran : (spawnListener ctx e event).Shows app meanwhile t w path w' u) :
    ∃ d, Turn e path d ∧ d.IsOf e ctx event := by
  obtain ⟨-, w₁, rest, -, rfl, ran₁⟩ := shows_op_bind_iff.1 ran
  have first : Aside [.performed w (.host .settings)] := ⟨rfl, rfl, rfl⟩
  split at ran₁
  · obtain ⟨inner, w₂, r, rest, -, rfl, told⟩ := shows_listener_iff.1 ran₁
    exact ⟨_, (Turn.heard e ctx event r).around first (logListenerFailure_aside told), .inl rfl⟩
  · obtain ⟨steps, w₂, accepted, rest, rfl, spawned, ran₂⟩ := ran₁.of_bind
    obtain ⟨offer, w₃, r, told, rfl, submitted, answered⟩ := spawned.of_bind
    rcases submit_turn asynchronous submitted with ⟨rfl, turn⟩ | ⟨⟨error, rfl⟩, aside⟩
    · obtain ⟨rfl, -, rfl⟩ := shows_done_iff.1 answered
      obtain ⟨rfl, -, -⟩ := shows_done_iff.1 ran₂
      rw [List.append_nil]
      exact ⟨_, turn.around first ⟨rfl, rfl, rfl⟩, .inr (.inl rfl)⟩
    · -- What the pool refuses is given back.
      obtain ⟨-, w₄, rest', -, rfl, told⟩ := shows_op_bind_iff.1 answered
      obtain ⟨rfl, -, rfl⟩ := shows_done_iff.1 told
      obtain ⟨-, w₅, last, -, rfl, ran₃⟩ := shows_perform_iff.1 ran₂
      obtain ⟨rfl, -, -⟩ := shows_done_iff.1 ran₃
      have given : Turn e [.performed w₂ (.release e)] (.refused e) := by
        refine ⟨rfl, rfl, fun inline => ?_, rfl, fun _ hx => absurd hx List.not_mem_nil⟩
        cases inline.symm.trans asynchronous
      have logged : Aside [.performed w₃ (.host (.log (.workDropped event.name .listener
        error.message)))] := ⟨rfl, rfl, rfl⟩
      exact ⟨_, given.around (first.append (aside.append logged)) ⟨rfl, rfl, rfl⟩, .inr (.inr rfl)⟩

theorem callListeners_walk {r : ListenerResult} (ids : (es.map (·.id)).Nodup)
    (ran : (callListeners dispatched ctx event es).Shows app meanwhile t w path w' r) :
    Walk es path := by
  induction es generalizing w path with
  | nil =>
    obtain ⟨rfl, -, -⟩ := shows_done_iff.1 ran
    exact .nil
  | cons e es ih =>
    obtain ⟨apart, ids⟩ := List.nodup_cons.1 ids
    cases walkStep_of_shows ran with
    | skip spent others rest => exact (ih ids rest).skip spent apart
    | spawn unspent asynchronous others spawned rest =>
      obtain ⟨d, turn, -⟩ := spawnListener_turn asynchronous spawned
      exact (ih ids rest).pass turn unspent apart (.inl asynchronous)
    | pass unspent inline others body rest =>
      exact (ih ids rest).pass (.heard e ctx event (.ok ())) unspent apart (.inr rfl)
    | stop unspent inline others body => exact .stop unspent inline

end Delivery
end EventDispatch
