import EventDispatch.Dispatch.Start
import EventDispatch.Proofs.Advance
import EventDispatch.Proofs.Delivery.Action
import EventDispatch.Proofs.Delivery.Chained
import Mathlib.Data.List.Forall2

namespace EventDispatch

variable {h : Host} {α : Type}

inductive Observer (h : Host) where
  | logging
  | metrics (mark : String → Outcome → h.Mark)

namespace Observer

def interceptor : Observer h → Interceptor h
  | .logging => .logging
  | .metrics mark => .metrics mark

def opening (ctx : Context) (event : Event) : Observer h → List (Trace h)
  | .logging => [.notice (.dispatching event.name (ctx.trace?.getD ""))]
  | .metrics _ => []

def closing (event : Event) (r : ListenerResult) : Observer h → Trace h
  | .logging =>
    match r with
    | .ok () => .notice (.dispatched event.name)
    | .error .stopPropagation => .notice (.stopped event.name)
    | .error e => .notice (.failed event.name e.message)
  | .metrics mark => .mark (mark event.name (.of r))

end Observer

def Trace.telling : Trace h → Occurrence h
  | .notice n => .performed (.host (.log n)) ()
  | .mark m => .performed (.host (.mark m)) ()

namespace Program

def announce : List (Trace h) → Program h α → Program h α
  | [], p => p
  | .notice n :: es, p => .perform (.host (.log n)) fun _ => announce es p
  | .mark m :: es, p => .perform (.host (.mark m)) fun _ => announce es p

variable {app : Application h} {meanwhile : World h → World h → Prop} {t : Thread}
  {p q : Program h α} {w w' v : World h} {path : List (Occurrence h)} {es : List (Trace h)}

theorem isOpen_announce (some : es ≠ []) (p : Program h α) :
    (announce es p).IsOpen ∧ (announce es p).result? = none := by
  match es, some with
  | .notice n :: es, _ => exact ⟨fun _ => nofun, rfl⟩
  | .mark m :: es, _ => exact ⟨fun _ => nofun, rfl⟩

/-- Telling takes nothing but the steps that tell, and can always be done. -/
theorem advances_announce (app : Application h) (meanwhile : World h → World h → Prop) (t : Thread)
    (p : Program h α) (w : World h) (es : List (Trace h)) :
    ∃ w₁, w.Retold w₁ ∧ ∀ {path q w'}, p.Advances app meanwhile t w₁ path q w' →
      (announce es p).Advances app meanwhile t w (es.map Trace.telling ++ path) q w' := by
  induction es generalizing w with
  | nil => exact ⟨w, .refl w, fun ran => ran⟩
  | cons e es ih =>
    obtain ⟨w₁, retold, go⟩ := ih (w.record t e)
    have first : w.Retold (w.record t e) := ⟨_, rfl⟩
    refine ⟨w₁, first.trans retold, fun ran => ?_⟩
    cases e with
    | notice n => exact .perform rfl (go ran)
    | mark m => exact .perform rfl (go ran)

theorem Advances.of_announce (deaf : World.Deaf meanwhile)
    (ran : (announce es p).Advances app meanwhile t w path q w') (retold : w.Retold v) :
    (∃ told left v₁, es = told ++ left ∧ left ≠ [] ∧ path = told.map Trace.telling ∧
        q = announce left p ∧ Relation.ReflTransGen meanwhile v v₁ ∧ w'.Retold v₁) ∨
      ∃ w₁ v₁ rest, path = es.map Trace.telling ++ rest ∧
        p.Advances app meanwhile t w₁ rest q w' ∧ Relation.ReflTransGen meanwhile v v₁ ∧
        w₁.Retold v₁ := by
  induction es generalizing w v path with
  | nil => exact .inr ⟨w, v, path, rfl, ran, .refl, retold⟩
  | cons e es ih =>
    have split : path = [] ∧ q = announce (e :: es) p ∧ Relation.ReflTransGen meanwhile w w' ∨
        ∃ w₁ rest, Relation.ReflTransGen meanwhile w w₁ ∧ path = e.telling :: rest ∧
          (announce es p).Advances app meanwhile t (w₁.record t e) rest q w' := by
      cases e with
      | notice n =>
        rcases ran.of_perform with begun | ⟨w₁, rest, moved, -, path, later⟩
        · exact .inl begun
        · exact .inr ⟨w₁, rest, moved, path, later⟩
      | mark m =>
        rcases ran.of_perform with begun | ⟨w₁, rest, moved, -, path, later⟩
        · exact .inl begun
        · exact .inr ⟨w₁, rest, moved, path, later⟩
    rcases split with ⟨rfl, rfl, moved⟩ | ⟨w₁, rest, moved, rfl, later⟩
    · obtain ⟨v₁, moved, retold⟩ := deaf.moves retold moved
      exact .inl ⟨[], e :: es, v₁, rfl, List.cons_ne_nil _ _, rfl, rfl, moved, retold⟩
    · obtain ⟨v₁, moved, retold₁⟩ := deaf.moves retold moved
      have silent : (w₁.record t e).Retold v₁ := by
        obtain ⟨trail, rfl⟩ := retold₁
        exact ⟨trail, rfl⟩
      rcases ih later silent with ⟨told, left, v₂, rfl, some, rfl, rfl, moved', retold'⟩ |
        ⟨w₂, v₂, rest, rfl, ran, moved', retold'⟩
      · exact .inl ⟨e :: told, left, v₂, rfl, some, rfl, rfl, moved.trans moved', retold'⟩
      · exact .inr ⟨w₂, v₂, rest, rfl, ran, moved.trans moved', retold'⟩

end Program

namespace Delivery

open Program

variable {app : Application h} {meanwhile : World h → World h → Prop} {t : Thread} {o : Observer h}
  {ctx : Context} {event dispatched : Event} {es : List (Entry h)}
  {before after : List (Interceptor h)} {q : Program h ListenerResult}
  {path path' pre pre' mid post : List (Occurrence h)} {r : ListenerResult} {w w' : World h}

def conclude (o : Observer h) (event : Event) (r : ListenerResult) : Program h ListenerResult :=
  announce [o.closing event r] (.done r)

def observe (o : Observer h) (n : Next h) (ctx : Context) (event : Event) : Program h ListenerResult :=
  announce (o.opening ctx event) ((proceed n ctx event).bind (conclude o event))

theorem body_observer (app : Application h) (o : Observer h) (n : Next h) (ctx : Context)
    (event : Event) : app.body (.interceptor o.interceptor n ctx event) = observe o n ctx event := by
  cases o with
  | logging =>
    refine congrArg (Program.perform _) (funext fun _ => congrArg (proceed n ctx event).bind ?_)
    funext r
    cases r with
    | ok u => rfl
    | error e => cases e <;> rfl
  | metrics mark => rfl

/-- The same step, or the same call but for an interceptor within the rest of the chain. -/
inductive Around (i : Interceptor h) : Occurrence h → Occurrence h → Prop where
  | same (s : Occurrence h) : Around i s s
  | call (j : Interceptor h) (before after : List (Interceptor h)) (es : List (Entry h))
      (dispatched : Event) (ctx : Context) (event : Event) :
      Around i (.called (.interceptor j ⟨before ++ after, es, dispatched⟩ ctx event))
        (.called (.interceptor j ⟨before ++ i :: after, es, dispatched⟩ ctx event))

theorem around_refl (i : Interceptor h) (path : List (Occurrence h)) :
    List.Forall₂ (Around i) path path := List.forall₂_same.2 fun s _ => .same s

/-- What the steps of a chain and those of the chain with an observer have to do with each other, when
`q` is left to do. -/
inductive Observed (app : Application h) (meanwhile : World h → World h → Prop) (t : Thread)
    (o : Observer h) (after : List (Interceptor h)) (es : List (Entry h)) (dispatched : Event)
    (q : Program h ListenerResult) : List (Occurrence h) → List (Occurrence h) → Prop where
  | unreached {path path' : List (Occurrence h)}
      (alike : List.Forall₂ (Around o.interceptor) path path') :
      Observed app meanwhile t o after es dispatched q path path'
  /-- The rest of the chain has not returned, or its result is yet to be told. -/
  | reached {pre pre' mid : List (Occurrence h)} {ctx : Context} {event : Event}
      {told : List (Trace h)} {left : Program h ListenerResult} {w w' : World h}
      (alike : List.Forall₂ (Around o.interceptor) pre pre') (isOpen : q.IsOpen)
      (opened : told <+: o.opening ctx event) (before : mid ≠ [] → told = o.opening ctx event)
      (ran : (proceed ⟨after, es, dispatched⟩ ctx event).Advances app meanwhile t w mid left w') :
      Observed app meanwhile t o after es dispatched q (pre ++ mid)
        (pre' ++ .called (.interceptor o.interceptor ⟨after, es, dispatched⟩ ctx event) ::
          (told.map Trace.telling ++ mid))
  | closed {pre pre' mid post : List (Occurrence h)} {ctx : Context} {event : Event}
      {r : ListenerResult} {w w' : World h}
      (alike : List.Forall₂ (Around o.interceptor) pre pre')
      (ran : (proceed ⟨after, es, dispatched⟩ ctx event).Advances app meanwhile t w mid (.done r) w') :
      Observed app meanwhile t o after es dispatched q (pre ++ (mid ++ post))
        (pre' ++ .called (.interceptor o.interceptor ⟨after, es, dispatched⟩ ctx event) ::
          ((o.opening ctx event).map Trace.telling ++
            (mid ++ (o.closing event r).telling :: post)))

/-- Wherever the first program gets to, the second gets as well, by steps that are related to those of
the first, and then it ends as the first one does. -/
def Shadows (app : Application h) (meanwhile : World h → World h → Prop) (t : Thread)
    (rel : Program h ListenerResult → List (Occurrence h) → List (Occurrence h) → Prop)
    (p p' : Program h ListenerResult) : Prop :=
  ∀ w path q w', p.Advances app meanwhile t w path q w' → ∃ path' q' v',
    p'.Advances app meanwhile t w path' q' v' ∧ w'.Retold v' ∧ rel q path path' ∧
    ∀ x, q.result? = some x → q'.result? = some x

structure Framed (rel : Program h ListenerResult → List (Occurrence h) → List (Occurrence h) → Prop) :
    Prop where
  same : ∀ q path, rel q path path
  before : ∀ {q path path'} pre, rel q path path' → rel q (pre ++ path) (pre ++ path')
  after : ∀ {r path path'} q post, rel (.done r) path path' → rel q (path ++ post) (path' ++ post)
  isOpen : ∀ {q q' path path'}, rel q path path' → q.IsOpen → q'.IsOpen → rel q' path path'

namespace Shadows

variable {rel : Program h ListenerResult → List (Occurrence h) → List (Occurrence h) → Prop}
  {p p' : Program h ListenerResult}

theorem refl (framed : Framed rel) (p : Program h ListenerResult) :
    Shadows app meanwhile t rel p p := fun _ path q w' ran =>
  ⟨path, q, w', ran, .refl w', framed.same q path, fun _ ended => ended⟩

/-- The same begins both. -/
theorem after_same (framed : Framed rel) (p : Program h α) {f f' : α → Program h ListenerResult}
    (rest : ∀ a, Shadows app meanwhile t rel (f a) (f' a)) :
    Shadows app meanwhile t rel (p.bind f) (p.bind f') := by
  intro w path q w' ran
  rcases ran.of_bind with ⟨p₁, isOpen, begun, rfl⟩ | ⟨first, w₁, a, last, rfl, begun, ended⟩
  · refine ⟨path, p₁.bind f', w', begun.bind f', .refl w', framed.same _ path, fun x finished => ?_⟩
    rw [isOpen.result?_bind f' f, finished]
  · obtain ⟨path', q', v', follows, retold, related, ends⟩ := rest a _ _ _ _ ended
    exact ⟨_, q', v', (begun.bind f').trans follows, retold, framed.before first related, ends⟩

/-- The same ends both. -/
theorem bind (framed : Framed rel) (deaf : World.Deaf meanwhile)
    (shadows : Shadows app meanwhile t rel p p') (f : ListenerResult → Program h ListenerResult) :
    Shadows app meanwhile t rel (p.bind f) (p'.bind f) := by
  intro w path q w' ran
  rcases ran.of_bind with ⟨p₁, isOpen, begun, rfl⟩ | ⟨first, w₁, a, last, rfl, begun, ended⟩
  · obtain ⟨path', q', v', follows, retold, related, ends⟩ := shadows _ _ _ _ begun
    refine ⟨path', q'.bind f, v', follows.bind f, retold,
      framed.isOpen related isOpen (isOpen.bind f), fun x finished => ?_⟩
    -- An open program can only end in a panic.
    rw [isOpen.result?_bind f .done, bind_done] at finished
    cases x with
    | ok a => exact absurd (eq_done_of_result? finished) (isOpen a)
    | error e => exact result?_bind_of_panic (ends _ finished) f
  · obtain ⟨first', q', v₁, follows, retold, related, ends⟩ := shadows _ _ _ _ begun
    cases eq_done_of_result? (ends _ rfl)
    obtain ⟨v', ended, retold⟩ := ended.retold deaf retold
    exact ⟨_, q, v', (follows.bind f).trans ended, retold, framed.after q last related,
      fun _ finished => finished⟩

theorem call (framed : Framed rel) {c c' : Call h}
    (bodies : Shadows app meanwhile t rel (app.body c) (app.body c'))
    (calls : ∀ {q path path'}, rel q path path' → rel q (.called c :: path) (.called c' :: path')) :
    Shadows app meanwhile t rel (.call c .done) (.call c' .done) := by
  intro w path q w' ran
  rcases ran.of_call with ⟨rfl, rfl, moved⟩ | ⟨rest, rfl, inner⟩
  · exact ⟨[], _, w', .after moved (.stay _ w'), .refl w', framed.same _ [], nofun⟩
  · rw [bind_done] at inner
    obtain ⟨path', q', v', follows, retold, related, ends⟩ := bodies _ _ _ _ inner
    refine ⟨_, q', v', .call ?_, retold, calls related, ends⟩
    rw [bind_done]
    exact follows

/-- An interceptor does not look into the rest of its chain. -/
theorem interceptor (framed : Framed rel) (deaf : World.Deaf meanwhile) (j : Interceptor h)
    {is is' : List (Interceptor h)}
    (calls : ∀ {q path path' ctx event}, rel q path path' →
      rel q (.called (.interceptor j ⟨is, es, dispatched⟩ ctx event) :: path)
        (.called (.interceptor j ⟨is', es, dispatched⟩ ctx event) :: path'))
    (rest : ∀ ctx event, Shadows app meanwhile t rel (proceed ⟨is, es, dispatched⟩ ctx event)
      (proceed ⟨is', es, dispatched⟩ ctx event)) (ctx : Context) (event : Event) :
    Shadows app meanwhile t rel (proceed ⟨j :: is, es, dispatched⟩ ctx event)
      (proceed ⟨j :: is', es, dispatched⟩ ctx event) := by
  refine call framed (after_same framed _ fun decided => ?_) calls
  cases decided with
  | finish r => exact refl framed _
  | proceed ctx event look => exact (rest ctx event).bind framed deaf fun r => (look r).program

end Shadows

theorem Framed.swap
    {rel : Program h ListenerResult → List (Occurrence h) → List (Occurrence h) → Prop}
    (framed : Framed rel) : Framed fun q path path' => rel q path' path where
  same := framed.same
  before pre related := framed.before pre related
  after q post related := framed.after q post related
  isOpen related := framed.isOpen related

theorem Observed.prepend
    (observed : Observed app meanwhile t o after es dispatched q path path')
    (alike : List.Forall₂ (Around o.interceptor) pre pre') :
    Observed app meanwhile t o after es dispatched q (pre ++ path) (pre' ++ path') := by
  cases observed with
  | unreached alike' => exact .unreached (List.rel_append alike alike')
  | reached alike' isOpen opened before ran =>
    rw [← List.append_assoc pre, ← List.append_assoc pre']
    exact .reached (List.rel_append alike alike') isOpen opened before ran
  | closed alike' ran =>
    rw [← List.append_assoc pre, ← List.append_assoc pre']
    exact .closed (List.rel_append alike alike') ran

theorem framed_observed : Framed (Observed app meanwhile t o after es dispatched) where
  same _ path := .unreached (around_refl _ path)
  before pre observed := observed.prepend (around_refl _ pre)
  after q post observed := by
    cases observed with
    | unreached alike => exact .unreached (List.rel_append alike (around_refl _ post))
    | reached alike isOpen => exact absurd rfl (isOpen _)
    | closed alike ran =>
      simp only [List.append_assoc, List.cons_append]
      exact .closed alike ran
  isOpen observed _ isOpen := by
    cases observed with
    | unreached alike => exact .unreached alike
    | reached alike _ opened before ran => exact .reached alike isOpen opened before ran
    | closed alike ran => exact .closed alike ran

/-- The observer has begun to tell what it tells first. -/
theorem Observed.of_opening {told : List (Trace h)} (isOpen : q.IsOpen)
    (begun : told <+: o.opening ctx event) (w : World h) :
    Observed app meanwhile t o after es dispatched q []
      (.called (.interceptor o.interceptor ⟨after, es, dispatched⟩ ctx event) ::
        told.map Trace.telling) := by
  rw [← List.append_nil (told.map Trace.telling)]
  exact .reached .nil isOpen begun (fun some => absurd rfl some) (.stay _ w)

/-- The rest of the chain has returned, and its result is told. -/
theorem Observed.of_closing (q : Program h ListenerResult)
    (ran : (proceed ⟨after, es, dispatched⟩ ctx event).Advances app meanwhile t w mid (.done r) w') :
    Observed app meanwhile t o after es dispatched q mid
      (.called (.interceptor o.interceptor ⟨after, es, dispatched⟩ ctx event) ::
        ((o.opening ctx event).map Trace.telling ++ (mid ++ [(o.closing event r).telling]))) := by
  have shown : Observed app meanwhile t o after es dispatched q ([] ++ (mid ++ [])) _ :=
    .closed .nil ran
  rwa [List.append_nil] at shown

/-- The rest of the chain has returned, and the observer is at its end or on the way there. -/
theorem conclude_observed (deaf : World.Deaf meanwhile) {last : List (Occurrence h)} {w₁ v v₁ : World h}
    (returned : (proceed ⟨after, es, dispatched⟩ ctx event).Advances app meanwhile t w mid (.done r) w₁)
    (ran : (conclude o event r).Advances app meanwhile t w₁ last q w')
    (follows : (proceed ⟨after, es, dispatched⟩ ctx event).Advances app meanwhile t v mid (.done r) v₁)
    (retold : w₁.Retold v₁) :
    ∃ v', (proceed ⟨after, es, dispatched⟩ ctx event).Advances app meanwhile t v mid (.done r) v' ∧
      w'.Retold v' ∧
      Observed app meanwhile t o after es dispatched q mid
        (.called (.interceptor o.interceptor ⟨after, es, dispatched⟩ ctx event) ::
          ((o.opening ctx event).map Trace.telling ++ (mid ++ last))) ∧
      ∀ x, q.result? = some x → x = .ok r := by
  rcases Advances.of_announce deaf ran retold with
    ⟨told, left, v₂, one, some, rfl, rfl, moved, retold⟩ | ⟨w₂, v₂, rest, rfl, ended, moved, retold⟩
  · have silent : told = [] := by
      cases told with
      | nil => rfl
      | cons e told => exact absurd (List.append_eq_nil_iff.1 (List.cons.inj one).2.symm).2 some
    obtain ⟨isOpen, unfinished⟩ := isOpen_announce some (.done r)
    refine ⟨v₂, follows.later moved, retold, ?_, fun x finished => ?_⟩
    · rw [silent, List.map_nil, List.append_nil]
      exact .reached .nil isOpen (List.prefix_refl _) (fun _ => rfl) returned
    · rw [unfinished] at finished
      cases finished
  · obtain ⟨rfl, rfl, moved'⟩ := ended.of_done
    obtain ⟨v', moved', retold⟩ := deaf.moves retold moved'
    exact ⟨v', (follows.later moved).later moved', retold, .of_closing _ returned,
      fun x finished => (Option.some.inj finished).symm⟩

/-- The chain with an observer in front does nothing that the chain does not. -/
theorem observer_shadowed (deaf : World.Deaf meanwhile) (o : Observer h)
    (after : List (Interceptor h)) (es : List (Entry h)) (dispatched : Event) (ctx : Context)
    (event : Event) : Shadows app meanwhile t
      (fun q path' path => Observed app meanwhile t o after es dispatched q path path')
      (proceed ⟨o.interceptor :: after, es, dispatched⟩ ctx event)
      (proceed ⟨after, es, dispatched⟩ ctx event) := by
  intro w path q w' ran
  rcases Advances.of_call ran with ⟨rfl, rfl, moved⟩ | ⟨rest, rfl, inner⟩
  · exact ⟨[], _, w', .after moved (.stay _ w'), .refl w', .unreached .nil, nofun⟩
  rw [bind_done, body_observer] at inner
  rcases Advances.of_announce deaf inner (.refl w) with
    ⟨told, left, v₁, opening, some, rfl, rfl, moved, retold⟩ | ⟨w₁, v₁, rest, rfl, opened, moved, retold⟩
  · obtain ⟨isOpen, unfinished⟩ :=
      isOpen_announce some ((proceed ⟨after, es, dispatched⟩ ctx event).bind (conclude o event))
    refine ⟨[], _, v₁, .after moved (.stay _ v₁), retold, ?_, fun x finished => ?_⟩
    · exact .of_opening isOpen (opening ▸ List.prefix_append told left) w
    · rw [unfinished] at finished
      cases finished
  rcases opened.of_bind with ⟨p, isOpen, mid, rfl⟩ | ⟨mid, w₂, r, last, rfl, returned, closing⟩
  · obtain ⟨v', follows, retold⟩ := mid.retold deaf retold
    refine ⟨rest, p, v', .after moved follows, retold, ?_, fun x finished => ?_⟩
    · exact .reached .nil (isOpen.bind _) (List.prefix_refl _) (fun _ => rfl) mid
    · rwa [isOpen.result?_bind _ .done, bind_done] at finished
  · obtain ⟨v₂, follows, retold⟩ := returned.retold deaf retold
    obtain ⟨v', follows, retold, observed, ends⟩ :=
      conclude_observed deaf returned closing (.after moved follows) retold
    exact ⟨mid, .done r, v', follows, retold, observed, fun x finished =>
      congrArg some (ends x finished).symm⟩

theorem advances_observer {inner : List (Occurrence h)}
    (ran : (observe o ⟨after, es, dispatched⟩ ctx event).Advances app meanwhile t w inner q w') :
    (proceed ⟨o.interceptor :: after, es, dispatched⟩ ctx event).Advances app meanwhile t w
      (.called (.interceptor o.interceptor ⟨after, es, dispatched⟩ ctx event) :: inner) q w' := by
  rw [← body_observer app, ← bind_done (app.body _)] at ran
  exact .call ran

/-- And it does all that the chain does. -/
theorem shadowed_by_observer (deaf : World.Deaf meanwhile) (o : Observer h)
    (after : List (Interceptor h)) (es : List (Entry h)) (dispatched : Event) (ctx : Context)
    (event : Event) : Shadows app meanwhile t (Observed app meanwhile t o after es dispatched)
      (proceed ⟨after, es, dispatched⟩ ctx event)
      (proceed ⟨o.interceptor :: after, es, dispatched⟩ ctx event) := by
  intro w path q w' ran
  obtain ⟨w₁, retold, opens⟩ := advances_announce app meanwhile t
    ((proceed ⟨after, es, dispatched⟩ ctx event).bind (conclude o event)) w (o.opening ctx event)
  obtain ⟨v', follows, retold'⟩ := ran.retold deaf retold
  have begun := follows.bind (conclude o event)
  rcases q.eq_done_or_isOpen with ⟨r, rfl⟩ | isOpen
  · obtain ⟨w₂, retold₂, closes⟩ := advances_announce app meanwhile t
      (.done r : Program h ListenerResult) v' [o.closing event r]
    have ended := begun.trans (closes (.stay _ w₂))
    exact ⟨_, .done r, w₂, advances_observer (opens ended), retold'.trans retold₂, .of_closing _ ran,
      fun _ finished => finished⟩
  · refine ⟨_, _, v', advances_observer (opens begun), retold', ?_, fun x finished => ?_⟩
    · exact .reached .nil isOpen (List.prefix_refl _) (fun _ => rfl) ran
    · rwa [isOpen.result?_bind _ .done, bind_done]

/-- Interceptors around the observer do not know of it. -/
theorem chain_shadowed (deaf : World.Deaf meanwhile) (o : Observer h)
    (before after : List (Interceptor h)) (es : List (Entry h)) (dispatched : Event) (ctx : Context)
    (event : Event) : Shadows app meanwhile t
      (fun q path' path => Observed app meanwhile t o after es dispatched q path path')
      (proceed ⟨before ++ o.interceptor :: after, es, dispatched⟩ ctx event)
      (proceed ⟨before ++ after, es, dispatched⟩ ctx event) := by
  induction before generalizing ctx event with
  | nil => exact observer_shadowed deaf o after es dispatched ctx event
  | cons j before ih =>
    exact .interceptor framed_observed.swap deaf j
      (fun observed => observed.prepend (.cons (.call j before after es dispatched _ _) .nil)) ih ctx
      event

theorem shadowed_by_chain (deaf : World.Deaf meanwhile) (o : Observer h)
    (before after : List (Interceptor h)) (es : List (Entry h)) (dispatched : Event) (ctx : Context)
    (event : Event) : Shadows app meanwhile t (Observed app meanwhile t o after es dispatched)
      (proceed ⟨before ++ after, es, dispatched⟩ ctx event)
      (proceed ⟨before ++ o.interceptor :: after, es, dispatched⟩ ctx event) := by
  induction before generalizing ctx event with
  | nil => exact shadowed_by_observer deaf o after es dispatched ctx event
  | cons j before ih =>
    exact .interceptor framed_observed deaf j
      (fun observed => observed.prepend (.cons (.call j before after es dispatched _ _) .nil)) ih ctx
      event

section Outermost

variable {result : DispatchResult} {options : DispatchOptions}

theorem sweep_advances
    (ran : (sweep event es r).Advances app meanwhile t w path (.done result) w') :
    result = outcome event.name r ∧ ∀ m, .performed (.host (.mark m)) () ∉ path := by
  obtain ⟨w₁, rest, rfl, ran₁⟩ := Advances.returns_of_perform ran
  simp only [done_bind] at ran₁
  split at ran₁
  · obtain ⟨w₂, rest, rfl, ran₂⟩ := Advances.returns_of_perform ran₁
    obtain ⟨rfl, same, -⟩ := Advances.of_done ran₂
    cases same
    exact ⟨rfl, fun m mem => by simp at mem⟩
  · obtain ⟨rfl, same, -⟩ := ran₁.of_done
    cases same
    exact ⟨rfl, fun m mem => by simp at mem⟩

/-- The metrics interceptor runs the chain `n`, then records once how that ended, and nothing is
recorded after it. -/
def Measured (app : Application h) (meanwhile : World h → World h → Prop) (t : Thread)
    (mark : String → Outcome → h.Mark) (n : Next h) (ctx : Context) (event : Event)
    (path : List (Occurrence h)) (r : ListenerResult) : Prop :=
  ∃ mid post w w', path = .called (.interceptor (.metrics mark) n ctx event) ::
      (mid ++ .performed (.host (.mark (mark event.name (.of r)))) () :: post) ∧
    (proceed n ctx event).Advances app meanwhile t w mid (.done r) w' ∧
    ∀ m, .performed (.host (.mark m)) () ∉ post

/-- A delivery that has come to its end, when the outermost interceptor is a metrics one. -/
theorem deliver_measured
    (ran : (deliver ctx event).Advances app meanwhile t w path (.done result) w') :
    ∃ snap tail, path = .performed (.snapshot event.name) snap :: tail ∧
      ∀ mark inner, snap.interceptors = .metrics mark :: inner → ∃ r,
        Measured app meanwhile t mark ⟨inner, snap.entries, event⟩ ctx event tail r ∧
          result = outcome event.name r := by
  rw [deliver_eq] at ran
  obtain ⟨w₁, tail, rfl, ran₁⟩ := Advances.returns_of_perform ran
  refine ⟨_, tail, rfl, fun mark inner outermost => ?_⟩
  simp only [done_bind, outermost] at ran₁
  obtain ⟨chained, w₂, r, swept, rfl, chain, ended⟩ := ran₁.returns_of_bind
  obtain ⟨called, rfl, body⟩ := Advances.returns_of_call chain
  rw [bind_done] at body
  have body : ((proceed ⟨inner, _, event⟩ ctx event).bind (conclude (.metrics mark) event)).Advances
      app meanwhile t _ called (.done r) w₂ := body
  obtain ⟨mid, w₃, r', last, rfl, returned, told⟩ := body.returns_of_bind
  obtain ⟨w₄, rest, rfl, finished⟩ := Advances.returns_of_perform told
  obtain ⟨rfl, same, -⟩ := finished.of_done
  cases same
  obtain ⟨rfl, silent⟩ := sweep_advances ended
  refine ⟨r, ⟨mid, swept, _, w₃, ?_, returned, silent⟩, rfl⟩
  simp only [List.cons_append, List.append_assoc, List.nil_append]

theorem failed_iff (name : String) (r : ListenerResult) :
    Outcome.of r = .failed ↔ ∃ e, outcome name r = .error (.listener name e) := by
  cases r with
  | ok u => exact ⟨nofun, nofun⟩
  | error e =>
    cases e with
    | stopPropagation => exact ⟨nofun, nofun⟩
    | _ => exact ⟨fun _ => ⟨_, rfl⟩, fun _ => rfl⟩

end Outermost

/-- A chain with an observer and the chain without it run alike, and end alike: each gets wherever the
other gets, and makes the same calls. A metrics interceptor that is the outermost one of a dispatcher
records a failure when the dispatch returns that of a listener, and only then. -/
theorem observers_are_transparent (deaf : World.Deaf meanwhile) (o : Observer h)
    (before after : List (Interceptor h)) (es : List (Entry h)) (dispatched : Event) (ctx : Context)
    (event : Event) :
    Shadows app meanwhile t
        (fun q path' path => Observed app meanwhile t o after es dispatched q path path')
        (proceed ⟨before ++ o.interceptor :: after, es, dispatched⟩ ctx event)
        (proceed ⟨before ++ after, es, dispatched⟩ ctx event) ∧
      Shadows app meanwhile t (Observed app meanwhile t o after es dispatched)
        (proceed ⟨before ++ after, es, dispatched⟩ ctx event)
        (proceed ⟨before ++ o.interceptor :: after, es, dispatched⟩ ctx event) ∧
      ∀ options w path result w',
        (dispatch ctx (some event) options).Advances app meanwhile t w path (.done result) w' →
        ∃ look route rest w₁, path = look ++ rest ∧
          (routeFor event options).Advances app meanwhile t w look (.done route) w₁ ∧
          ∀ plan, DispatchPlan.resolve event.name options route = .ok plan →
            plan.driver = .memory → plan.asynchronous = false →
            ∃ snap tail, rest = .performed (.snapshot event.name) snap :: tail ∧
              ∀ mark inner, snap.interceptors = .metrics mark :: inner → ∃ r,
                Measured app meanwhile t mark ⟨inner, snap.entries, event⟩ (withPlanTrace ctx plan)
                  event tail r ∧
                (Outcome.of r = .failed ↔ ∃ e, result = .error (.listener event.name e)) := by
  refine ⟨chain_shadowed deaf o before after es dispatched ctx event,
    shadowed_by_chain deaf o before after es dispatched ctx event, fun options w path result w' ran => ?_⟩
  rw [dispatch_eq] at ran
  obtain ⟨look, w₁, route, rest, rfl, looked, ran₁⟩ := ran.returns_of_bind
  refine ⟨look, route, rest, w₁, rfl, looked, fun plan resolved memory now => ?_⟩
  simp only [resolved, carryOut, memory, now] at ran₁
  obtain ⟨snap, tail, rfl, measured⟩ := deliver_measured ran₁
  refine ⟨snap, tail, rfl, fun mark inner outermost => ?_⟩
  obtain ⟨r, shown, rfl⟩ := measured mark inner outermost
  exact ⟨r, shown, failed_iff event.name r⟩

abbrev gaugeHost : Host := ⟨Except Panic ListenerResult, Empty, Empty, Empty, Unit, String × Outcome⟩

def gauge : Application gaugeHost where
  listen code _ _ :=
    match code with
    | .ok r => return r
    | .error e => .panic e
  intercept i := nomatch i
  run e := nomatch e

def obeying (code : Except Panic ListenerResult) : Entry gaugeHost := ⟨1, .plain code, ⟨0, false, false⟩⟩

def counting : Observer gaugeHost := .metrics Prod.mk

def counted (code : Except Panic ListenerResult) : List (Occurrence gaugeHost) :=
  [.called (.interceptor counting.interceptor ⟨[], [obeying code], news⟩ .background news),
    .performed (.claim (obeying code)) true, .called (.listener (obeying code) .background news)]

theorem failure_counted :
    World.Deaf (h := gaugeHost) World.Steps ∧ ∃ shown path w',
      shown = counted (.ok (.error .cancelled)) ++ [.performed (.host (.mark ("n", .failed))) ()] ∧
      (proceed ⟨[], [obeying (.ok (.error .cancelled))], news⟩ .background news).Advances gauge
        World.Steps .main (World.start default none ()) path (.done (.error .cancelled)) w' ∧
      Observed gauge World.Steps .main counting [] [obeying (.ok (.error .cancelled))] news
        (.done (.error .cancelled)) path shown := by
  have ran : (proceed ⟨[counting.interceptor], [obeying (.ok (.error .cancelled))], news⟩ .background
      news).Advances gauge World.Steps .main (World.start default none ())
      (counted (.ok (.error .cancelled)) ++ [.performed (.host (.mark ("n", .failed))) ()])
      (.done (.error .cancelled)) _ := .call (.perform rfl (.call (.perform rfl (.stay _ _))))
  obtain ⟨gone, -⟩ := observers_are_transparent (t := .main) World.deaf_steps counting []
    [] [obeying (.ok (.error .cancelled))] news .background news
  obtain ⟨path, q, w', follows, -, observed, ends⟩ := gone _ _ _ _ ran
  cases eq_done_of_result? (ends _ rfl)
  exact ⟨World.deaf_steps, _, path, w', rfl, follows, observed⟩

/-- Nothing is recorded when the rest of the chain panics. -/
theorem panic_uncounted : ∃ path w',
    (proceed ⟨[counting.interceptor], [obeying (.error (.text "boom"))], news⟩ .background
      news).Advances gauge World.Steps .main (World.start default none ()) path
      (.panic (.text "boom")) w' ∧
    .called (.interceptor counting.interceptor ⟨[], [obeying (.error (.text "boom"))], news⟩
      .background news) ∈ path ∧
    ∀ m, .performed (.host (.mark m)) () ∉ path := by
  refine ⟨counted (.error (.text "boom")), _, .call (.perform rfl (.call (.stay _ _))), ?_, ?_⟩
  · exact List.mem_cons_self
  · intro m mem
    simp [counted] at mem

end Delivery
end EventDispatch
