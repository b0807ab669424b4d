import EventDispatch.Dispatch.Application
import EventDispatch.Proofs.Runs

namespace EventDispatch.Program

variable {h : Host}

/-- Runs that show the chain of interceptors from within: a call to an interceptor shows the steps of
the rest of its chain too. The own code of listeners and interceptors is run, and its steps are not
shown. -/
inductive Unrolls (app : Application h) (meanwhile : World h → World h → Prop) (t : Thread) :
    {α : Type} → Program h α → World h → List (Footstep h) → World h → α → Prop where
  | done {α : Type} (a : α) (w : World h) : Unrolls app meanwhile t (.done a) w [] w a
  | perform {α : Type} {o : Op h} {next : o.Answer → Program h α} {w w₁ w' : World h}
      {path : List (Footstep h)} {a : α} (ready : w.isReady t o)
      (others : meanwhile (w.answer t o).2 w₁)
      (rest : Unrolls app meanwhile t (next (w.answer t o).1) w₁ path w' a) :
      Unrolls app meanwhile t (.perform o next) w (.performed w o :: path) w' a
  | listener {α : Type} {e : Entry h} {ctx : Context} {event : Event}
      {next : ListenerResult → Program h α} {w w₁ w' : World h} {inner path : List (Footstep h)}
      {r : ListenerResult} {a : α}
      (body : (app.body (.listener e ctx event)).Runs app meanwhile t w inner w₁ r)
      (rest : Unrolls app meanwhile t (next r) w₁ path w' a) :
      Unrolls app meanwhile t (.call (.listener e ctx event) next) w
        (.called (.listener e ctx event) :: path) w' a
  | finish {α : Type} {i : Interceptor h} {n : Next h} {ctx : Context} {event : Event}
      {next : ListenerResult → Program h α} {w w₁ w' : World h} {inner path : List (Footstep h)}
      {r : ListenerResult} {a : α}
      (verdict : (app.verdict i ctx event).program.Runs app meanwhile t w inner w₁ (.finish r))
      (rest : Unrolls app meanwhile t (next r) w₁ path w' a) :
      Unrolls app meanwhile t (.call (.interceptor i n ctx event) next) w
        (.called (.interceptor i n ctx event) :: path) w' a
  | proceed {α : Type} {i : Interceptor h} {n : Next h} {ctx ctx' : Context} {event event' : Event}
      {after : ListenerResult → Script h ListenerResult} {next : ListenerResult → Program h α}
      {w w₁ w₂ w₃ w' : World h} {first shown last path : List (Footstep h)} {r r' : ListenerResult}
      {a : α}
      (verdict : (app.verdict i ctx event).program.Runs app meanwhile t w first w₁
        (.proceed ctx' event' after))
      (chain : Unrolls app meanwhile t (Delivery.proceed n ctx' event') w₁ shown w₂ r)
      (look : (after r).program.Runs app meanwhile t w₂ last w₃ r')
      (rest : Unrolls app meanwhile t (next r') w₃ path w' a) :
      Unrolls app meanwhile t (.call (.interceptor i n ctx event) next) w
        (.called (.interceptor i n ctx event) :: (shown ++ path)) w' a

variable {app : Application h} {meanwhile : World h → World h → Prop} {t : Thread} {α β : Type}
  {w w' : World h} {path : List (Footstep h)}

theorem unrolls_done_iff {a b : α} :
    (Program.done a).Unrolls app meanwhile t w path w' b ↔ path = [] ∧ w' = w ∧ b = a := by
  constructor
  · intro ran
    cases ran
    exact ⟨rfl, rfl, rfl⟩
  · rintro ⟨rfl, rfl, rfl⟩
    exact .done b w'

theorem unrolls_perform_iff {o : Op h} {next : o.Answer → Program h α} {a : α} :
    (Program.perform o next).Unrolls app meanwhile t w path w' a ↔
      w.isReady t o ∧ ∃ w₁ rest, meanwhile (w.answer t o).2 w₁ ∧ path = .performed w o :: rest ∧
        (next (w.answer t o).1).Unrolls app meanwhile t w₁ rest w' a := by
  constructor
  · intro ran
    cases ran with
    | perform ready others rest => exact ⟨ready, _, _, others, rfl, rest⟩
  · rintro ⟨ready, w₁, rest, others, rfl, ran⟩
    exact .perform ready others ran

/-- A step whose answer decides how a run goes on. -/
theorem unrolls_op_bind_iff {o : Op h} {f : o.Answer → Program h β} {b : β} :
    ((op o).bind f).Unrolls app meanwhile t w path w' b ↔
      w.isReady t o ∧ ∃ w₁ rest, meanwhile (w.answer t o).2 w₁ ∧ path = .performed w o :: rest ∧
        (f (w.answer t o).1).Unrolls app meanwhile t w₁ rest w' b :=
  unrolls_perform_iff

/-- A run that begins with a step. -/
theorem Unrolls.exists_op {o : Op h} {f : o.Answer → Program h β} {w₁ : World h}
    {Q : List (Footstep h) → Prop} (ready : w.isReady t o) (others : meanwhile (w.answer t o).2 w₁)
    (rest : ∃ path w' b, (f (w.answer t o).1).Unrolls app meanwhile t w₁ path w' b ∧
      Q (.performed w o :: path)) :
    ∃ path w' b, ((op o).bind f).Unrolls app meanwhile t w path w' b ∧ Q path := by
  obtain ⟨path, w', b, ran, shown⟩ := rest
  exact ⟨.performed w o :: path, w', b, .perform ready others ran, shown⟩

theorem unrolls_listener_iff {e : Entry h} {ctx : Context} {event : Event}
    {next : ListenerResult → Program h α} {a : α} :
    (Program.call (.listener e ctx event) next).Unrolls app meanwhile t w path w' a ↔
      ∃ inner w₁ r rest, (app.body (.listener e ctx event)).Runs app meanwhile t w inner w₁ r ∧
        path = .called (.listener e ctx event) :: rest ∧
        (next r).Unrolls app meanwhile t w₁ rest w' a := by
  constructor
  · intro ran
    cases ran with
    | listener body rest => exact ⟨_, _, _, _, body, rfl, rest⟩
  · rintro ⟨inner, w₁, r, rest, body, rfl, ran⟩
    exact .listener body ran

theorem not_unrolls_panic {p : Panic} {a : α} :
    ¬(Program.panic p).Unrolls app meanwhile t w path w' a := by
  intro ran
  cases ran

/-- What comes first takes its steps first. -/
theorem Unrolls.bind {p : Program h α} {f : α → Program h β} {w₁ : World h}
    {first rest : List (Footstep h)} {a : α} {b : β}
    (begun : p.Unrolls app meanwhile t w first w₁ a)
    (ended : (f a).Unrolls app meanwhile t w₁ rest w' b) :
    (p.bind f).Unrolls app meanwhile t w (first ++ rest) w' b := by
  induction begun with
  | done a w => exact ended
  | perform ready others _ ih => exact .perform ready others (ih ended)
  | listener body _ ih => exact .listener body (ih ended)
  | finish verdict _ ih => exact .finish verdict (ih ended)
  | proceed verdict chain look _ _ ih =>
    rw [List.cons_append, List.append_assoc]
    exact .proceed verdict chain look (ih ended)

theorem Unrolls.of_bind {p : Program h α} {f : α → Program h β} {b : β}
    (ran : (p.bind f).Unrolls app meanwhile t w path w' b) :
    ∃ first w₁ a rest, path = first ++ rest ∧ p.Unrolls app meanwhile t w first w₁ a ∧
      (f a).Unrolls app meanwhile t w₁ rest w' b := by
  induction p generalizing w path with
  | done a => exact ⟨[], w, a, path, rfl, .done a w, ran⟩
  | panic e => exact absurd ran not_unrolls_panic
  | perform o next ih =>
    obtain ⟨ready, w₁, tail, others, rfl, after⟩ := unrolls_perform_iff.1 ran
    obtain ⟨first, w₂, a, rest, rfl, begun, ended⟩ := ih _ after
    exact ⟨.performed w o :: first, w₂, a, rest, rfl, .perform ready others begun, ended⟩
  | call c next ih =>
    cases ran with
    | listener body after =>
      obtain ⟨first, w₂, a, rest, rfl, begun, ended⟩ := ih _ after
      exact ⟨_, w₂, a, rest, rfl, .listener body begun, ended⟩
    | finish verdict after =>
      obtain ⟨first, w₂, a, rest, rfl, begun, ended⟩ := ih _ after
      exact ⟨_, w₂, a, rest, rfl, .finish verdict begun, ended⟩
    | proceed verdict chain look after =>
      obtain ⟨first, w₂, a, rest, rfl, begun, ended⟩ := ih _ after
      refine ⟨_, w₂, a, rest, ?_, .proceed verdict chain look begun, ended⟩
      rw [List.cons_append, List.append_assoc]

/-- What is shown is shown of a run. -/
theorem Unrolls.runs {p : Program h α} {a : α} (ran : p.Unrolls app meanwhile t w path w' a) :
    ∃ path, p.Runs app meanwhile t w path w' a := by
  induction ran with
  | done a w => exact ⟨[], .done a w⟩
  | perform ready others _ ih =>
    obtain ⟨path, ran⟩ := ih
    exact ⟨_, .perform ready others ran⟩
  | listener body _ ih =>
    obtain ⟨path, ran⟩ := ih
    exact ⟨_, .call body ran⟩
  | finish verdict _ ih =>
    obtain ⟨path, ran⟩ := ih
    exact ⟨_, .call (runs_bind_iff.2 ⟨_, _, _, _, rfl, verdict, .done _ _⟩) ran⟩
  | @proceed α i n ctx ctx' event event' after _ _ _ _ _ _ _ _ _ _ _ _ _ verdict _ look _ ihc ih =>
    obtain ⟨shown, chain⟩ := ihc
    obtain ⟨path, ran⟩ := ih
    have rest := runs_bind_iff (f := fun r => (after r).program) |>.2 ⟨_, _, _, _, rfl, chain, look⟩
    exact ⟨_, .call (runs_bind_iff.2 ⟨_, _, _, _, rfl, verdict, rest⟩) ran⟩

/-- Every run can be shown. -/
theorem Runs.unrolls {p : Program h α} {a : α} (ran : p.Runs app meanwhile t w path w' a) :
    ∃ shown, p.Unrolls app meanwhile t w shown w' a := by
  induction ran with
  | done a w => exact ⟨[], .done a w⟩
  | perform ready others _ ih =>
    obtain ⟨shown, ran⟩ := ih
    exact ⟨_, .perform ready others ran⟩
  | @call α c next w w₁ w' inner path r a body _ ihb ih =>
    obtain ⟨rest, ran⟩ := ih
    cases c with
    | listener e ctx event => exact ⟨_, .listener body ran⟩
    | interceptor i n ctx event =>
      -- The body is the verdict, what it decides, and the look at the result of the rest.
      obtain ⟨shown, body⟩ := ihb
      obtain ⟨first, w₂, v, tail, -, verdict, decided⟩ := body.of_bind
      obtain ⟨_, verdict⟩ := verdict.runs
      cases v with
      | finish r' =>
        obtain ⟨-, rfl, rfl⟩ := unrolls_done_iff.1 decided
        exact ⟨_, .finish verdict ran⟩
      | proceed ctx' event' after =>
        obtain ⟨middle, w₃, r', last, -, chain, look⟩ := decided.of_bind
        obtain ⟨_, look⟩ := look.runs
        exact ⟨_, .proceed verdict chain look ran⟩

end EventDispatch.Program
