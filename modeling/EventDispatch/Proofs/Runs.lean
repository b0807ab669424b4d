import EventDispatch.Dispatch.World
import EventDispatch.Proofs.Protocol

namespace EventDispatch

/-- One step of a program: an atomic one, with the state that it found, or a call. -/
inductive Footstep (h : Host) where
  | performed (found : World h) (o : Op h)
  | called (c : Call h)

namespace Program

variable {h : Host}

/-- Thread `t` runs a program in state `w`, takes the steps of `path`, and ends in state `w'` with an
answer. What the others do after a step is a state that `meanwhile` allows. A call into application code
runs the body of the call, whose steps are not counted among those of the program itself. -/
inductive Runs (app : Application h) (meanwhile : World h → World h → Prop) (t : Thread) :
    {α : Type} → Program h α → World h → List (Footstep h) → World h → α → Prop where
  | done {α : Type} (a : α) (w : World h) : Runs app meanwhile t (.done a) w [] w a
  | perform {α : Type} {o : Op h} {next : o.Answer → Program h α} {w w₁ w' : World h}
      {path : List (Footstep h)} {a : α} (ready : w.isReady t o)
      (others : meanwhile (w.answer t o).2 w₁)
      (rest : Runs app meanwhile t (next (w.answer t o).1) w₁ path w' a) :
      Runs app meanwhile t (.perform o next) w (.performed w o :: path) w' a
  | call {α : Type} {c : Call h} {next : ListenerResult → Program h α} {w w₁ w' : World h}
      {inner path : List (Footstep h)} {r : ListenerResult} {a : α}
      (body : Runs app meanwhile t (app.body c) w inner w₁ r)
      (rest : Runs app meanwhile t (next r) w₁ path w' a) :
      Runs app meanwhile t (.call c next) w (.called c :: path) w' a

variable {app : Application h} {meanwhile : World h → World h → Prop} {t : Thread} {α β : Type}
  {w w' : World h} {path : List (Footstep h)}

theorem runs_done_iff {a b : α} :
    (Program.done a).Runs app meanwhile t w path w' b ↔ path = [] ∧ w' = w ∧ b = a := by
  constructor
  · intro ran
    cases ran
    exact ⟨rfl, rfl, rfl⟩
  · rintro ⟨rfl, rfl, rfl⟩
    exact .done b w'

theorem runs_perform_iff {o : Op h} {next : o.Answer → Program h α} {a : α} :
    (Program.perform o next).Runs app meanwhile t w path w' a ↔
      w.isReady t o ∧ ∃ w₁ rest, meanwhile (w.answer t o).2 w₁ ∧ path = .performed w o :: rest ∧
        (next (w.answer t o).1).Runs app meanwhile t w₁ rest w' a := by
  constructor
  · intro ran
    cases ran with
    | perform ready others rest => exact ⟨ready, _, _, others, rfl, rest⟩
  · rintro ⟨ready, w₁, rest, others, rfl, ran⟩
    exact .perform ready others ran

theorem runs_call_iff {c : Call h} {next : ListenerResult → Program h α} {a : α} :
    (Program.call c next).Runs app meanwhile t w path w' a ↔
      ∃ inner w₁ r rest, (app.body c).Runs app meanwhile t w inner w₁ r ∧
        path = .called c :: rest ∧ (next r).Runs app meanwhile t w₁ rest w' a := by
  constructor
  · intro ran
    cases ran with
    | call body rest => exact ⟨_, _, _, _, body, rfl, rest⟩
  · rintro ⟨inner, w₁, r, rest, body, rfl, ran⟩
    exact .call body ran

theorem not_runs_panic {p : Panic} {a : α} :
    ¬(Program.panic p).Runs app meanwhile t w path w' a := by
  intro ran
  cases ran

/-- A program put in front of another runs first, and its answer decides how the run goes on. -/
theorem runs_bind_iff {p : Program h α} {f : α → Program h β} {b : β} :
    (p.bind f).Runs app meanwhile t w path w' b ↔
      ∃ first w₁ a rest, path = first ++ rest ∧ p.Runs app meanwhile t w first w₁ a ∧
        (f a).Runs app meanwhile t w₁ rest w' b := by
  -- The induction is on the first program, whose steps the whole has in front.
  induction p generalizing w path with
  | done a =>
    rw [done_bind]
    constructor
    · intro ran
      exact ⟨[], w, a, path, rfl, .done a w, ran⟩
    · rintro ⟨first, w₁, a', rest, rfl, begun, ended⟩
      obtain ⟨rfl, rfl, rfl⟩ := runs_done_iff.1 begun
      exact ended
  | panic e =>
    constructor
    · exact fun ran => absurd ran not_runs_panic
    · rintro ⟨first, w₁, a', rest, rfl, begun, -⟩
      exact absurd begun not_runs_panic
  | perform o next ih =>
    constructor
    · intro ran
      obtain ⟨ready, w₁, tail, others, rfl, after⟩ := runs_perform_iff.1 ran
      obtain ⟨first, w₂, a, rest, rfl, begun, ended⟩ := (ih _).1 after
      exact ⟨.performed w o :: first, w₂, a, rest, rfl, .perform ready others begun, ended⟩
    · rintro ⟨first, w₂, a, rest, rfl, begun, ended⟩
      obtain ⟨ready, w₁, tail, others, rfl, after⟩ := runs_perform_iff.1 begun
      exact .perform ready others ((ih _).2 ⟨tail, w₂, a, rest, rfl, after, ended⟩)
  | call c next ih =>
    constructor
    · intro ran
      obtain ⟨inner, w₁, r, tail, body, rfl, after⟩ := runs_call_iff.1 ran
      obtain ⟨first, w₂, a, rest, rfl, begun, ended⟩ := (ih _).1 after
      exact ⟨.called c :: first, w₂, a, rest, rfl, .call body begun, ended⟩
    · rintro ⟨first, w₂, a, rest, rfl, begun, ended⟩
      obtain ⟨inner, w₁, r, tail, body, rfl, after⟩ := runs_call_iff.1 begun
      exact .call body ((ih _).2 ⟨tail, w₂, a, rest, rfl, after, ended⟩)

/-- A step whose answer decides how a run goes on. -/
theorem runs_op_bind_iff {o : Op h} {f : o.Answer → Program h β} {b : β} :
    ((op o).bind f).Runs app meanwhile t w path w' b ↔
      w.isReady t o ∧ ∃ w₁ rest, meanwhile (w.answer t o).2 w₁ ∧ path = .performed w o :: rest ∧
        (f (w.answer t o).1).Runs app meanwhile t w₁ rest w' b :=
  runs_perform_iff

def Returns (app : Application h) (meanwhile : World h → World h → Prop) (t : Thread)
    (p : Program h α) (w : World h) : Prop := ∃ path w' a, p.Runs app meanwhile t w path w' a

theorem returns_done (a : α) : (Program.done a).Returns app meanwhile t w := ⟨[], w, a, .done a w⟩

theorem Returns.op {o : Op h} {f : o.Answer → Program h β} (idle : ∀ v, meanwhile v v)
    (ready : w.isReady t o)
    (rest : (f (w.answer t o).1).Returns app meanwhile t (w.answer t o).2) :
    ((op o).bind f).Returns app meanwhile t w := by
  obtain ⟨path, w', b, ran⟩ := rest
  exact ⟨_, w', b, .perform ready (idle _) ran⟩

theorem Returns.call {c : Call h} {next : ListenerResult → Program h α}
    (body : (app.body c).Returns app meanwhile t w)
    (rest : ∀ v r, (next r).Returns app meanwhile t v) :
    (Program.call c next).Returns app meanwhile t w := by
  obtain ⟨inner, w₁, r, body⟩ := body
  obtain ⟨path, w', a, ran⟩ := rest w₁ r
  exact ⟨_, w', a, .call body ran⟩

theorem Returns.bind {p : Program h α} {f : α → Program h β} (first : p.Returns app meanwhile t w)
    (rest : ∀ v a, (f a).Returns app meanwhile t v) : (p.bind f).Returns app meanwhile t w := by
  obtain ⟨steps, w₁, a, begun⟩ := first
  obtain ⟨path, w', b, ended⟩ := rest w₁ a
  exact ⟨_, w', b, runs_bind_iff.2 ⟨steps, w₁, a, path, rfl, begun, ended⟩⟩

/-- The answer of a program and the state after it when no other thread is about. A program that
panics, has to wait or calls application code has none. -/
def alone (t : Thread) : Program h α → World h → Option (α × World h)
  | .done a, w => some (a, w)
  | .panic _, _ => none
  | .perform o next, w =>
    if w.isReady t o then (next (w.answer t o).1).alone t (w.answer t o).2 else none
  | .call _ _, _ => none

/-- It is one of the runs of the program, when the others may do nothing. -/
theorem runs_of_alone (app : Application h) (idle : ∀ w, meanwhile w w) {p : Program h α} {a : α}
    (ran : p.alone t w = some (a, w')) : ∃ path, p.Runs app meanwhile t w path w' a := by
  induction p generalizing w with
  | done b =>
    obtain ⟨rfl, rfl⟩ := Prod.mk.inj (Option.some.inj ran)
    exact ⟨[], .done _ _⟩
  | panic e => cases ran
  | perform o next ih =>
    rw [alone] at ran
    split at ran
    · next ready =>
      obtain ⟨path, rest⟩ := ih _ ran
      exact ⟨_, .perform ready (idle _) rest⟩
    · cases ran
  | call c next => cases ran

end Program

section Only

variable {h : Host} {may : Op h → Prop} {mayCall : Call h → Prop}

def Protocol.only (may : Op h → Prop) (mayCall : Call h → Prop) : Protocol h Unit where
  rest := ()
  after _ _ := ()
  Calm _ := True
  MayPerform _ o := may o
  MayCall _ c := mayCall c
  Answers _ _ := True
  Leads _ _ := True
  after_ended _ := rfl
  leads_refl _ := trivial
  leads_trans _ _ := trivial
  calm_of_leads _ _ := trivial
  calm_of_mayCall _ := trivial

/-- A program that keeps to certain steps keeps to any more of them. -/
theorem Program.keeps_only_mono {may' : Op h → Prop} {mayCall' : Call h → Prop} {α : Type}
    {p : Program h α} {Q : Unit → α → Prop} (keeps : p.Keeps (.only may mayCall) () Q)
    (steps : ∀ o, may o → may' o) (calls : ∀ c, mayCall c → mayCall' c) :
    p.Keeps (.only may' mayCall') () Q := by
  induction p with
  | done a => exact keeps
  | panic e => trivial
  | perform o next ih => exact ⟨steps o keeps.1, fun a ha => ih a (keeps.2 a ha)⟩
  | call c next ih => exact ⟨calls c keeps.1, fun u hu r => ih r (keeps.2 u hu r)⟩

def Footstep.Within (may : Op h → Prop) (mayCall : Call h → Prop) : Footstep h → Prop
  | .performed _ o => may o
  | .called c => mayCall c

/-- A program that keeps to certain steps takes no other one in any run. -/
theorem Program.Runs.within {app : Application h} {meanwhile : World h → World h → Prop}
    {t : Thread} {α : Type} {p : Program h α} {w w' : World h} {path : List (Footstep h)} {a : α}
    {Q : Unit → α → Prop} (ran : p.Runs app meanwhile t w path w' a)
    (keeps : p.Keeps (.only may mayCall) () Q) : ∀ s ∈ path, s.Within may mayCall := by
  induction p generalizing w path with
  | done b =>
    obtain ⟨rfl, -⟩ := runs_done_iff.1 ran
    exact fun s hs => absurd hs List.not_mem_nil
  | panic e => exact absurd ran not_runs_panic
  | perform o next ih =>
    obtain ⟨-, w₁, rest, -, rfl, after⟩ := runs_perform_iff.1 ran
    exact List.forall_mem_cons.2 ⟨keeps.1, ih _ after (keeps.2 _ trivial)⟩
  | call c next ih =>
    -- What the called body does is not on the path.
    obtain ⟨inner, w₁, r, rest, -, rfl, after⟩ := runs_call_iff.1 ran
    exact List.forall_mem_cons.2 ⟨keeps.1, ih _ after (keeps.2 () trivial r)⟩

end Only

abbrev bareHost : Host := ⟨Empty, Empty, Empty, Empty, Unit, Empty⟩

def bare : Application bareHost where
  listen l := nomatch l
  intercept i := nomatch i
  run e := nomatch e

end EventDispatch
