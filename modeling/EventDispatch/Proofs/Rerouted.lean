import EventDispatch.Proofs.Delivery.Walk
import EventDispatch.Proofs.Local
import Mathlib.Logic.Relation

namespace EventDispatch

variable {h : Host} {α : Type}

namespace World

def rerouted (w : World h) (table : RouteTable) (publisher : Option Publisher) : World h :=
  { w with table, settings := { w.settings with publisher } }

/-- States that differ in the routes and in the publisher only. -/
def Alike (w v : World h) : Prop := ∃ table publisher, v = w.rerouted table publisher

theorem Alike.refl (w : World h) : w.Alike w := ⟨w.table, w.settings.publisher, rfl⟩

theorem Alike.symm {w v : World h} (alike : w.Alike v) : v.Alike w := by
  obtain ⟨table, publisher, rfl⟩ := alike
  exact ⟨w.table, w.settings.publisher, rfl⟩

theorem Alike.registry {w v : World h} (alike : w.Alike v) : v.registry = w.registry := by
  obtain ⟨table, publisher, rfl⟩ := alike
  rfl

/-- A step that publishes nothing can be taken in both or in neither, is answered alike, and leads to
states that are alike. -/
theorem Alike.answer {w v : World h} (alike : w.Alike v) (t : Thread) {o : Op h}
    (quiet : ¬o.Publishes) : v.isReady t o = w.isReady t o ∧
      o.Agree (w.answer t o).1 (v.answer t o).1 ∧ (w.answer t o).2.Alike (v.answer t o).2 := by
  obtain ⟨table, publisher, rfl⟩ := alike
  cases o with
  | publish ctx m => exact absurd trivial quiet
  | loadTable routes => exact ⟨rfl, rfl, routes, publisher, rfl⟩
  | host o =>
    cases o with
    | table => exact ⟨rfl, trivial, table, publisher, rfl⟩
    | settings => exact ⟨rfl, ⟨rfl, rfl⟩, table, publisher, rfl⟩
    | register type =>
      refine ⟨rfl, ?_⟩
      simp only [World.answer, answerHost, rerouted]
      split <;> exact ⟨rfl, table, publisher, rfl⟩
    | _ => exact ⟨rfl, rfl, table, publisher, rfl⟩
  | _ => exact ⟨rfl, rfl, table, publisher, rfl⟩

/-- What the others do to a state, they can do to one that is alike. That is so when they do nothing,
and when their steps publish nothing (`blind_steps`). -/
def Blind (meanwhile : World h → World h → Prop) : Prop :=
  ∀ w w₁ v, w.Alike v → meanwhile w w₁ → ∃ v₁, meanwhile v v₁ ∧ w₁.Alike v₁

theorem blind_eq : Blind (h := h) Eq := fun _ _ v alike same => ⟨v, rfl, same ▸ alike⟩

/-- Steps of whatever threads that publish nothing. -/
theorem blind_steps :
    Blind (Relation.ReflTransGen fun w w₁ : World h => ∃ t o, ¬o.Publishes ∧ w₁ = (w.answer t o).2) := by
  intro w w₁ v alike steps
  induction steps with
  | refl => exact ⟨v, .refl, alike⟩
  | tail _ step ih =>
    obtain ⟨v₁, steps, alike₁⟩ := ih
    obtain ⟨t, o, quiet, rfl⟩ := step
    exact ⟨_, steps.tail ⟨t, o, quiet, rfl⟩, (alike₁.answer t quiet).2.2⟩

end World

namespace Sight

inductive Alike : Sight h → Sight h → Prop where
  | performed {found found' : World h} (alike : found.Alike found') (o : Op h) :
      Alike (.performed found o) (.performed found' o)
  | same (s : Sight h) : Alike s s

variable {s s' : Sight h} {path path' : List (Sight h)}

theorem Alike.handling? (alike : s.Alike s') : s'.footstep.handling? = s.footstep.handling? := by
  cases alike with
  | same => rfl
  | performed alike o =>
    obtain ⟨table, publisher, rfl⟩ := alike
    cases o with
    | enqueue job => cases job <;> rfl
    | _ => rfl

theorem Alike.answer? (alike : s.Alike s') : s'.answer? = s.answer? := by
  cases alike <;> rfl

/-- What is read off a path without regard to the states found is the same. -/
theorem filterMap_of_alike {β : Type} {f : Sight h → Option β}
    (same : ∀ s s', Alike s s' → f s' = f s) (alike : List.Forall₂ Alike path path') :
    path'.filterMap f = path.filterMap f := by
  induction alike with
  | nil => rfl
  | cons first rest ih => rw [List.filterMap_cons, List.filterMap_cons, same _ _ first, ih]

theorem handled_of_alike (alike : List.Forall₂ Alike path path') : handled path' = handled path := by
  rw [handled, handled, handlings, handlings, List.filterMap_map, List.filterMap_map]
  exact filterMap_of_alike (fun _ _ same => same.handling?) alike

theorem answers_of_alike (alike : List.Forall₂ Alike path path') : answers path' = answers path :=
  filterMap_of_alike (fun _ _ same => same.answer?) alike

end Sight

namespace Program

variable {app : Application h} {meanwhile : World h → World h → Prop} {t : Thread} {p : Program h α}
  {w w' v : World h} {a : α}

theorem IsLocal.body (own : app.IsLocal) (c : Call h) : (app.body c).IsLocal := by
  cases c with
  | listener e ctx event => exact (own.runListener e.handler ctx event).isLocal
  | interceptor i n ctx event =>
    apply (own.verdict (fun _ => trivial) (fun _ => trivial) i ctx event).bind_isLocal
    intro decided later
    cases decided with
    | finish r => exact isLocal_done _
    | proceed ctx event after =>
      exact (Delivery.isLocal_proceed n ctx event).bind fun r => (later r).isLocal

/-- What runs in one state runs in every state that is alike, with the same answer. -/
theorem Runs.exists_alike {path : List (Footstep h)} (blind : World.Blind meanwhile)
    (own : app.IsLocal) (hp : p.IsLocal) (ran : p.Runs app meanwhile t w path w' a)
    (alike : w.Alike v) : ∃ path' v', p.Runs app meanwhile t v path' v' a ∧ w'.Alike v' := by
  induction ran generalizing v with
  | done a w => exact ⟨[], v, .done a v, alike⟩
  | @perform α o next w w₁ w' path a ready others rest ih =>
    obtain ⟨quiet, same, later⟩ := hp
    obtain ⟨ready', agree, alike₁⟩ := alike.answer t quiet
    obtain ⟨v₁, others', alike₂⟩ := blind _ _ _ alike₁ others
    obtain ⟨path', v', ran, alike'⟩ := ih (later _) alike₂
    rw [same _ _ agree] at ran
    exact ⟨_, v', .perform (ready'.trans ready) others' ran, alike'⟩
  | call body rest ihb ih =>
    obtain ⟨inner, v₁, body', alike₁⟩ := ihb (.body own _) alike
    obtain ⟨path', v', ran, alike'⟩ := ih (hp _) alike₁
    exact ⟨_, v', .call body' ran, alike'⟩

/-- It shows the same calls, and the same answers of listeners. -/
theorem Shows.exists_alike {path : List (Sight h)} (blind : World.Blind meanwhile)
    (own : app.IsLocal) (hp : p.IsLocal) (ran : p.Shows app meanwhile t w path w' a)
    (alike : w.Alike v) : ∃ path' v', p.Shows app meanwhile t v path' v' a ∧ w'.Alike v' ∧
      List.Forall₂ Sight.Alike path path' := by
  induction ran generalizing v with
  | done a w => exact ⟨[], v, .done a v, alike, .nil⟩
  | @perform α o next w w₁ w' path a ready others rest ih =>
    obtain ⟨quiet, same, later⟩ := hp
    obtain ⟨ready', agree, alike₁⟩ := alike.answer t quiet
    obtain ⟨v₁, others', alike₂⟩ := blind _ _ _ alike₁ others
    obtain ⟨path', v', ran, alike', shown⟩ := ih (later _) alike₂
    rw [same _ _ agree] at ran
    exact ⟨_, v', .perform (ready'.trans ready) others' ran, alike', .cons (.performed alike o) shown⟩
  | @listener α e ctx event next w w₁ w' inner path r a body rest ih =>
    obtain ⟨inner', v₁, body', alike₁⟩ := body.exists_alike blind own (.body own _) alike
    obtain ⟨path', v', ran, alike', shown⟩ := ih (hp _) alike₁
    exact ⟨_, v', .listener body' ran, alike', .cons (.same _) shown⟩
  | @finish α i n ctx event next w w₁ w' inner path r a verdict rest ih =>
    have asks := own.verdict (fun _ => trivial) (fun _ => trivial) i ctx event
    obtain ⟨inner', v₁, verdict', alike₁⟩ := verdict.exists_alike blind own asks.isLocal alike
    obtain ⟨path', v', ran, alike', shown⟩ := ih (hp _) alike₁
    exact ⟨_, v', .finish verdict' ran, alike', .cons (.same _) shown⟩
  | @proceed α i n ctx ctx' event event' after next w w₁ w₂ w₃ w' first last chained path r r' a
      verdict chain look rest ihc ih =>
    have asks := own.verdict (fun _ => trivial) (fun _ => trivial) i ctx event
    have later : ∀ r, (after r).AsksOnly Request.IsLocal fun _ => True := asks.returns verdict
    obtain ⟨_, v₁, verdict', alike₁⟩ := verdict.exists_alike blind own asks.isLocal alike
    obtain ⟨chained', v₂, chain', alike₂, within⟩ := ihc (Delivery.isLocal_proceed n ctx' event') alike₁
    obtain ⟨_, v₃, look', alike₃⟩ := look.exists_alike blind own (later r).isLocal alike₂
    obtain ⟨path', v', ran, alike', shown⟩ := ih (hp _) alike₃
    exact ⟨_, v', .proceed verdict' chain' look' ran, alike',
      .cons (.same _) (List.rel_append within shown)⟩

/-- If it is settled what the others do, there is one run at most. -/
theorem Runs.unique {path path' : List (Footstep h)} {w'' : World h} {b : α}
    (settled : Relator.RightUnique meanwhile) (ran : p.Runs app meanwhile t w path w' a)
    (ran' : p.Runs app meanwhile t w path' w'' b) : path' = path ∧ w'' = w' ∧ b = a := by
  induction ran generalizing path' w'' with
  | done a w => exact runs_done_iff.1 ran'
  | perform ready others rest ih =>
    obtain ⟨-, w₂, tail, others', rfl, rest'⟩ := runs_perform_iff.1 ran'
    cases settled others others'
    obtain ⟨rfl, rfl, rfl⟩ := ih rest'
    exact ⟨rfl, rfl, rfl⟩
  | call body rest ihb ih =>
    obtain ⟨inner, w₂, r, tail, body', rfl, rest'⟩ := runs_call_iff.1 ran'
    obtain ⟨-, rfl, rfl⟩ := ihb body'
    obtain ⟨rfl, rfl, rfl⟩ := ih rest'
    exact ⟨rfl, rfl, rfl⟩

theorem Shows.unique {path path' : List (Sight h)} {w'' : World h} {b : α}
    (settled : Relator.RightUnique meanwhile) (ran : p.Shows app meanwhile t w path w' a)
    (ran' : p.Shows app meanwhile t w path' w'' b) : path' = path ∧ w'' = w' ∧ b = a := by
  induction ran generalizing path' w'' with
  | done a w => exact shows_done_iff.1 ran'
  | perform ready others rest ih =>
    obtain ⟨-, w₂, tail, others', rfl, rest'⟩ := shows_perform_iff.1 ran'
    cases settled others others'
    obtain ⟨rfl, rfl, rfl⟩ := ih rest'
    exact ⟨rfl, rfl, rfl⟩
  | listener body rest ih =>
    obtain ⟨inner, w₂, r, tail, body', rfl, rest'⟩ := shows_listener_iff.1 ran'
    obtain ⟨-, rfl, rfl⟩ := body.unique settled body'
    obtain ⟨rfl, rfl, rfl⟩ := ih rest'
    exact ⟨rfl, rfl, rfl⟩
  | finish verdict rest ih =>
    cases ran' with
    | finish verdict' rest' =>
      obtain ⟨-, rfl, same⟩ := verdict.unique settled verdict'
      cases same
      obtain ⟨rfl, rfl, rfl⟩ := ih rest'
      exact ⟨rfl, rfl, rfl⟩
    -- One run cannot end a chain where the other goes on, since the verdicts are one.
    | proceed verdict' _ _ _ => cases (verdict.unique settled verdict').2.2
  | proceed verdict chain look rest ihc ih =>
    cases ran' with
    | finish verdict' _ => cases (verdict.unique settled verdict').2.2
    | proceed verdict' chain' look' rest' =>
      obtain ⟨-, rfl, same⟩ := verdict.unique settled verdict'
      cases same
      obtain ⟨rfl, rfl, rfl⟩ := ihc chain'
      obtain ⟨-, rfl, rfl⟩ := look.unique settled look'
      obtain ⟨rfl, rfl, rfl⟩ := ih rest'
      exact ⟨rfl, rfl, rfl⟩

/-- No step of a local program publishes, nor does any of the chains that it begins. The application's
own code may. -/
theorem Shows.not_publishes {path : List (Sight h)} (hp : p.IsLocal)
    (ran : p.Shows app meanwhile t w path w' a) :
    ∀ s ∈ path, s.footstep.Within (fun o => ¬o.Publishes) fun _ => True := by
  induction ran with
  | done a w => exact fun s hs => absurd hs List.not_mem_nil
  | perform ready others rest ih => exact List.forall_mem_cons.2 ⟨hp.1, ih (hp.2.2 _)⟩
  | listener body rest ih => exact List.forall_mem_cons.2 ⟨trivial, ih (hp _)⟩
  | finish verdict rest ih => exact List.forall_mem_cons.2 ⟨trivial, ih (hp _)⟩
  | proceed verdict chain look rest ihc ih =>
    have within := ihc (Delivery.isLocal_proceed _ _ _)
    exact List.forall_mem_cons.2 ⟨trivial, List.forall_mem_append.2 ⟨within, ih (hp _)⟩⟩

end Program
end EventDispatch
