import EventDispatch.Proofs.Delivery.Unrolled

namespace EventDispatch

variable {h : Host}

inductive Sight (h : Host) where
  | performed (found : World h) (o : Op h)
  /-- A listener was called, and gave its answer. -/
  | heard (e : Entry h) (ctx : Context) (event : Event) (r : ListenerResult)
  /-- An interceptor was called, and let the chain go on. -/
  | passed (i : Interceptor h) (n : Next h) (ctx : Context) (event : Event)
  /-- An interceptor was called, and ended the chain. -/
  | ended (i : Interceptor h) (n : Next h) (ctx : Context) (event : Event)

namespace Sight

def footstep : Sight h → Footstep h
  | .performed found o => .performed found o
  | .heard e ctx event _ => .called (.listener e ctx event)
  | .passed i n ctx event => .called (.interceptor i n ctx event)
  | .ended i n ctx event => .called (.interceptor i n ctx event)

end Sight

namespace Program

/-- Runs that also show what the listeners answered, and which interceptors let the chain go on. -/
inductive Shows (app : Application h) (meanwhile : World h → World h → Prop) (t : Thread) :
    {α : Type} → Program h α → World h → List (Sight h) → World h → α → Prop where
  | done {α : Type} (a : α) (w : World h) : Shows app meanwhile t (.done a) w [] w a
  | perform {α : Type} {o : Op h} {next : o.Answer → Program h α} {w w₁ w' : World h}
      {path : List (Sight h)} {a : α} (ready : w.isReady t o)
      (others : meanwhile (w.answer t o).2 w₁)
      (rest : Shows app meanwhile t (next (w.answer t o).1) w₁ path w' a) :
      Shows app meanwhile t (.perform o next) w (.performed w o :: path) w' a
  | listener {α : Type} {e : Entry h} {ctx : Context} {event : Event}
      {next : ListenerResult → Program h α} {w w₁ w' : World h} {inner : List (Footstep h)}
      {path : List (Sight h)} {r : ListenerResult} {a : α}
      (body : (app.body (.listener e ctx event)).Runs app meanwhile t w inner w₁ r)
      (rest : Shows app meanwhile t (next r) w₁ path w' a) :
      Shows app meanwhile t (.call (.listener e ctx event) next) w
        (.heard e ctx event r :: path) w' a
  | finish {α : Type} {i : Interceptor h} {n : Next h} {ctx : Context} {event : Event}
      {next : ListenerResult → Program h α} {w w₁ w' : World h} {inner : List (Footstep h)}
      {path : List (Sight h)} {r : ListenerResult} {a : α}
      (verdict : (app.verdict i ctx event).program.Runs app meanwhile t w inner w₁ (.finish r))
      (rest : Shows app meanwhile t (next r) w₁ path w' a) :
      Shows app meanwhile t (.call (.interceptor i n ctx event) next) w
        (.ended i n ctx event :: path) w' a
  | proceed {α : Type} {i : Interceptor h} {n : Next h} {ctx ctx' : Context} {event event' : Event}
      {after : ListenerResult → Script h ListenerResult} {next : ListenerResult → Program h α}
      {w w₁ w₂ w₃ w' : World h} {first last : List (Footstep h)} {chained path : List (Sight h)}
      {r r' : ListenerResult} {a : α}
      (verdict : (app.verdict i ctx event).program.Runs app meanwhile t w first w₁
        (.proceed ctx' event' after))
      (chain : Shows app meanwhile t (Delivery.proceed n ctx' event') w₁ chained w₂ r)
      (look : (after r).program.Runs app meanwhile t w₂ last w₃ r')
      (rest : Shows app meanwhile t (next r') w₃ path w' a) :
      Shows app meanwhile t (.call (.interceptor i n ctx event) next) w
        (.passed i n ctx event :: (chained ++ path)) w' a

variable {app : Application h} {meanwhile : World h → World h → Prop} {t : Thread} {α β : Type}
  {w w' : World h} {path : List (Sight h)}

theorem shows_done_iff {a b : α} :
    (Program.done a).Shows app meanwhile t w path w' b ↔ path = [] ∧ w' = w ∧ b = a := by
  constructor
  · intro ran
    cases ran
    exact ⟨rfl, rfl, rfl⟩
  · rintro ⟨rfl, rfl, rfl⟩
    exact .done b w'

theorem shows_perform_iff {o : Op h} {next : o.Answer → Program h α} {a : α} :
    (Program.perform o next).Shows app meanwhile t w path w' a ↔
      w.isReady t o ∧ ∃ w₁ rest, meanwhile (w.answer t o).2 w₁ ∧ path = .performed w o :: rest ∧
        (next (w.answer t o).1).Shows app meanwhile t w₁ rest w' a := by
  constructor
  · intro ran
    cases ran with
    | perform ready others rest => exact ⟨ready, _, _, others, rfl, rest⟩
  · rintro ⟨ready, w₁, rest, others, rfl, ran⟩
    exact .perform ready others ran

/-- A step whose answer decides how a run goes on. -/
theorem shows_op_bind_iff {o : Op h} {f : o.Answer → Program h β} {b : β} :
    ((op o).bind f).Shows app meanwhile t w path w' b ↔
      w.isReady t o ∧ ∃ w₁ rest, meanwhile (w.answer t o).2 w₁ ∧ path = .performed w o :: rest ∧
        (f (w.answer t o).1).Shows app meanwhile t w₁ rest w' b :=
  shows_perform_iff

theorem shows_listener_iff {e : Entry h} {ctx : Context} {event : Event}
    {next : ListenerResult → Program h α} {a : α} :
    (Program.call (.listener e ctx event) next).Shows app meanwhile t w path w' a ↔
      ∃ inner w₁ r rest, (app.body (.listener e ctx event)).Runs app meanwhile t w inner w₁ r ∧
        path = .heard e ctx event r :: rest ∧
        (next r).Shows app meanwhile t w₁ rest w' a := by
  constructor
  · intro ran
    cases ran with
    | listener body rest => exact ⟨_, _, _, _, body, rfl, rest⟩
  · rintro ⟨inner, w₁, r, rest, body, rfl, ran⟩
    exact .listener body ran

theorem not_shows_panic {p : Panic} {a : α} :
    ¬(Program.panic p).Shows app meanwhile t w path w' a := by
  intro ran
  cases ran

/-- What comes first is shown first. -/
theorem Shows.bind {p : Program h α} {f : α → Program h β} {w₁ : World h}
    {first rest : List (Sight h)} {a : α} {b : β} (begun : p.Shows app meanwhile t w first w₁ a)
    (ended : (f a).Shows app meanwhile t w₁ rest w' b) :
    (p.bind f).Shows app meanwhile t w (first ++ rest) w' b := by
  induction begun with
  | done a w => exact ended
  | perform ready others _ ih => exact .perform ready others (ih ended)
  | listener body _ ih => exact .listener body (ih ended)
  | finish verdict _ ih => exact .finish verdict (ih ended)
  | proceed verdict chain look _ _ ih =>
    rw [List.cons_append, List.append_assoc]
    exact .proceed verdict chain look (ih ended)

theorem Shows.of_bind {p : Program h α} {f : α → Program h β} {b : β}
    (ran : (p.bind f).Shows app meanwhile t w path w' b) :
    ∃ first w₁ a rest, path = first ++ rest ∧ p.Shows app meanwhile t w first w₁ a ∧
      (f a).Shows app meanwhile t w₁ rest w' b := by
  induction p generalizing w path with
  | done a => exact ⟨[], w, a, path, rfl, .done a w, ran⟩
  | panic e => exact absurd ran not_shows_panic
  | perform o next ih =>
    obtain ⟨ready, w₁, tail, others, rfl, after⟩ := shows_perform_iff.1 ran
    obtain ⟨first, w₂, a, rest, rfl, begun, ended⟩ := ih _ after
    exact ⟨.performed w o :: first, w₂, a, rest, rfl, .perform ready others begun, ended⟩
  | call c next ih =>
    cases ran with
    | listener body after =>
      obtain ⟨first, w₂, a, rest, rfl, begun, ended⟩ := ih _ after
      exact ⟨_, w₂, a, rest, rfl, .listener body begun, ended⟩
    | finish verdict after =>
      obtain ⟨first, w₂, a, rest, rfl, begun, ended⟩ := ih _ after
      exact ⟨_, w₂, a, rest, rfl, .finish verdict begun, ended⟩
    | proceed verdict chain look after =>
      obtain ⟨first, w₂, a, rest, rfl, begun, ended⟩ := ih _ after
      refine ⟨_, w₂, a, rest, ?_, .proceed verdict chain look begun, ended⟩
      rw [List.cons_append, List.append_assoc]

/-- What is shown besides the steps adds nothing to the run, and every run shows it. -/
theorem unrolls_iff_shows {p : Program h α} {a : α} {steps : List (Footstep h)} :
    p.Unrolls app meanwhile t w steps w' a ↔
      ∃ path, p.Shows app meanwhile t w path w' a ∧ path.map Sight.footstep = steps := by
  constructor
  · intro ran
    induction ran with
    | done a w => exact ⟨[], .done a w, rfl⟩
    | perform ready others _ ih =>
      obtain ⟨path, ran, rfl⟩ := ih
      exact ⟨_, .perform ready others ran, rfl⟩
    | listener body _ ih =>
      obtain ⟨path, ran, rfl⟩ := ih
      exact ⟨_, .listener body ran, rfl⟩
    | finish verdict _ ih =>
      obtain ⟨path, ran, rfl⟩ := ih
      exact ⟨_, .finish verdict ran, rfl⟩
    | proceed verdict _ look _ ihc ih =>
      obtain ⟨chained, chain, rfl⟩ := ihc
      obtain ⟨path, ran, rfl⟩ := ih
      refine ⟨_, .proceed verdict chain look ran, ?_⟩
      rw [List.map_cons, List.map_append]
      rfl
  · rintro ⟨path, ran, rfl⟩
    induction ran with
    | done a w => exact .done a w
    | perform ready others _ ih => exact .perform ready others ih
    | listener body _ ih => exact .listener body ih
    | finish verdict _ ih => exact .finish verdict ih
    | proceed verdict _ look _ ihc ih =>
      rw [List.map_cons, List.map_append]
      exact .proceed verdict ihc look ih

/-- A program that keeps to certain steps, and calls listeners only, takes no other step in any run. -/
theorem Shows.within {may : Op h → Prop} {mayCall : Call h → Prop} {p : Program h α} {a : α}
    {Q : Unit → α → Prop} (ran : p.Shows app meanwhile t w path w' a)
    (keeps : p.Keeps (.only may mayCall) () Q)
    (listeners : ∀ i n ctx event, ¬mayCall (.interceptor i n ctx event)) :
    ∀ s ∈ path, s.footstep.Within may mayCall := by
  induction ran with
  | done a w => exact fun s hs => absurd hs List.not_mem_nil
  | perform ready others _ ih => exact List.forall_mem_cons.2 ⟨keeps.1, ih (keeps.2 _ trivial)⟩
  | listener body _ ih => exact List.forall_mem_cons.2 ⟨keeps.1, ih (keeps.2 () trivial _)⟩
  | finish => exact absurd keeps.1 (listeners _ _ _ _)
  | proceed => exact absurd keeps.1 (listeners _ _ _ _)

theorem Shows.runs {p : Program h α} {a : α} (ran : p.Shows app meanwhile t w path w' a) :
    ∃ path, p.Runs app meanwhile t w path w' a :=
  (unrolls_iff_shows.2 ⟨path, ran, rfl⟩).runs

theorem Runs.shows {p : Program h α} {a : α} {steps : List (Footstep h)}
    (ran : p.Runs app meanwhile t w steps w' a) : ∃ path, p.Shows app meanwhile t w path w' a := by
  obtain ⟨shown, ran⟩ := ran.unrolls
  obtain ⟨path, ran, -⟩ := unrolls_iff_shows.1 ran
  exact ⟨path, ran⟩

end Program
end EventDispatch
