import EventDispatch.Dispatch.World
import EventDispatch.Proofs.Protocol
import Mathlib.Logic.Relation

namespace EventDispatch

variable {h : Host} {α β : Type}

namespace Program

/-- Thread `t` takes the steps of `path` and leaves `q` to do. -/
inductive Advances (app : Application h) (meanwhile : World h → World h → Prop) (t : Thread) :
    Program h α → World h → List (Occurrence h) → Program h α → World h → Prop where
  | stay (p : Program h α) (w : World h) : Advances app meanwhile t p w [] p w
  | others {p q : Program h α} {w w₁ w' : World h} {path : List (Occurrence h)}
      (moved : meanwhile w w₁) (rest : Advances app meanwhile t p w₁ path q w') :
      Advances app meanwhile t p w path q w'
  | perform {o : Op h} {next : o.Answer → Program h α} {q : Program h α} {w w' : World h}
      {path : List (Occurrence h)} (ready : w.isReady t o)
      (rest : Advances app meanwhile t (next (w.answer t o).1) (w.answer t o).2 path q w') :
      Advances app meanwhile t (.perform o next) w (.performed o (w.answer t o).1 :: path) q w'
  | call {c : Call h} {next : ListenerResult → Program h α} {q : Program h α} {w w' : World h}
      {path : List (Occurrence h)}
      (rest : Advances app meanwhile t ((app.body c).bind next) w path q w') :
      Advances app meanwhile t (.call c next) w (.called c :: path) q w'

def result? : Program h α → Option (Except Panic α)
  | .done a => some (.ok a)
  | .panic e => some (.error e)
  | _ => none

def IsOpen (p : Program h α) : Prop := ∀ a, p ≠ .done a

variable {app : Application h} {meanwhile : World h → World h → Prop} {t : Thread}
  {p q : Program h α} {w w₁ w' : World h} {path path' : List (Occurrence h)}

theorem eq_done_or_isOpen (p : Program h α) : (∃ a, p = .done a) ∨ p.IsOpen := by
  cases p with
  | done a => exact .inl ⟨a, rfl⟩
  | _ => exact .inr fun _ => nofun

theorem IsOpen.bind (isOpen : p.IsOpen) (f : α → Program h β) : (p.bind f).IsOpen := by
  cases p with
  | done a => exact absurd rfl (isOpen a)
  | _ => exact fun _ => nofun

/-- What follows an open program does not count as long as it is open. -/
theorem IsOpen.result?_bind (isOpen : p.IsOpen) (f g : α → Program h β) :
    (p.bind f).result? = (p.bind g).result? := by
  cases p with
  | done a => exact absurd rfl (isOpen a)
  | _ => rfl

theorem eq_done_of_result? {a : α} (ended : p.result? = some (.ok a)) : p = .done a := by
  cases p <;> cases ended
  rfl

theorem result?_bind_of_panic {e : Panic} (ended : p.result? = some (.error e))
    (f : α → Program h β) : (p.bind f).result? = some (.error e) := by
  cases p <;> cases ended
  rfl

namespace Advances

theorem after (moved : Relation.ReflTransGen meanwhile w w₁)
    (ran : p.Advances app meanwhile t w₁ path q w') : p.Advances app meanwhile t w path q w' := by
  induction moved using Relation.ReflTransGen.head_induction_on with
  | refl => exact ran
  | head first _ ih => exact .others first ih

theorem trans {r : Program h α} (ran : p.Advances app meanwhile t w path q w₁)
    (rest : q.Advances app meanwhile t w₁ path' r w') :
    p.Advances app meanwhile t w (path ++ path') r w' := by
  induction ran with
  | stay p w => exact rest
  | others moved _ ih => exact .others moved (ih rest)
  | perform ready _ ih => exact .perform ready (ih rest)
  | call _ ih => exact .call (ih rest)

theorem later (ran : p.Advances app meanwhile t w path q w₁)
    (moved : Relation.ReflTransGen meanwhile w₁ w') : p.Advances app meanwhile t w path q w' := by
  have stays := ran.trans (.after moved (.stay q w'))
  rwa [List.append_nil] at stays

theorem bind (ran : p.Advances app meanwhile t w path q w') (f : α → Program h β) :
    (p.bind f).Advances app meanwhile t w path (q.bind f) w' := by
  induction ran with
  | stay p w => exact .stay _ w
  | others moved _ ih => exact .others moved ih
  | perform ready _ ih => exact .perform ready ih
  | call _ ih =>
    rw [bind_assoc] at ih
    exact .call ih

/-- A thread is still at the first of two programs, or has got to the second. -/
theorem of_bind {f : α → Program h β} {q : Program h β}
    (ran : (p.bind f).Advances app meanwhile t w path q w') :
    (∃ p', p'.IsOpen ∧ p.Advances app meanwhile t w path p' w' ∧ q = p'.bind f) ∨
      ∃ first w₁ a rest, path = first ++ rest ∧ p.Advances app meanwhile t w first (.done a) w₁ ∧
        (f a).Advances app meanwhile t w₁ rest q w' := by
  have begun : ∀ {a : α} {w path}, (f a).Advances app meanwhile t w path q w' →
      ∃ first w₁ b rest, path = first ++ rest ∧
        (Program.done a).Advances app meanwhile t w first (.done b) w₁ ∧
        (f b).Advances app meanwhile t w₁ rest q w' := fun {a w path} ran =>
    ⟨[], w, a, path, rfl, .stay _ w, ran⟩
  -- The induction is on the run: what is left may still be split in two, or only the second is.
  generalize same : p.bind f = both at ran
  induction ran generalizing p with
  | stay both w =>
    subst same
    rcases p.eq_done_or_isOpen with ⟨a, rfl⟩ | isOpen
    · exact .inr (begun (.stay _ w))
    · exact .inl ⟨p, isOpen, .stay p w, rfl⟩
  | others moved _ ih =>
    rcases ih begun same with ⟨p', isOpen, ran, left⟩ | ⟨first, w₁, a, rest, split, ran, ran'⟩
    · exact .inl ⟨p', isOpen, .others moved ran, left⟩
    · exact .inr ⟨first, w₁, a, rest, split, .others moved ran, ran'⟩
  | perform ready later ih =>
    cases p with
    | done a =>
      rw [done_bind] at same
      exact .inr (begun (same.symm ▸ .perform ready later))
    | panic e => cases same
    | call c next => cases same
    | perform o next =>
      cases same
      rcases ih begun rfl with ⟨p', isOpen, ran, left⟩ | ⟨first, w₁, a, rest, rfl, ran, ran'⟩
      · exact .inl ⟨p', isOpen, .perform ready ran, left⟩
      · exact .inr ⟨_, w₁, a, rest, rfl, .perform ready ran, ran'⟩
  | call later ih =>
    cases p with
    | done a =>
      rw [done_bind] at same
      exact .inr (begun (same.symm ▸ .call later))
    | panic e => cases same
    | perform o next => cases same
    | call c next =>
      cases same
      rcases ih begun (bind_assoc _ _ _) with
        ⟨p', isOpen, ran, left⟩ | ⟨first, w₁, a, rest, rfl, ran, ran'⟩
      · exact .inl ⟨p', isOpen, .call ran, left⟩
      · exact .inr ⟨_, w₁, a, rest, rfl, .call ran, ran'⟩

theorem of_done {a : α} (ran : (Program.done a).Advances app meanwhile t w path q w') :
    path = [] ∧ q = .done a ∧ Relation.ReflTransGen meanwhile w w' := by
  generalize same : Program.done a = p at ran
  induction ran with
  | stay p w => exact ⟨rfl, same ▸ rfl, .refl⟩
  | others moved _ ih =>
    obtain ⟨path, left, later⟩ := ih same
    exact ⟨path, left, .head moved later⟩
  | perform ready rest => cases same
  | call rest => cases same

theorem of_perform {o : Op h} {next : o.Answer → Program h α}
    (ran : (Program.perform o next).Advances app meanwhile t w path q w') :
    path = [] ∧ q = .perform o next ∧ Relation.ReflTransGen meanwhile w w' ∨
      ∃ w₁ rest, Relation.ReflTransGen meanwhile w w₁ ∧ w₁.isReady t o ∧
        path = .performed o (w₁.answer t o).1 :: rest ∧
        (next (w₁.answer t o).1).Advances app meanwhile t (w₁.answer t o).2 rest q w' := by
  generalize same : Program.perform o next = p at ran
  induction ran with
  | stay p w => exact .inl ⟨rfl, same ▸ rfl, .refl⟩
  | others moved _ ih =>
    rcases ih same with ⟨path, left, later⟩ | ⟨w₁, rest, later, ready, path, ran⟩
    · exact .inl ⟨path, left, .head moved later⟩
    · exact .inr ⟨w₁, rest, .head moved later, ready, path, ran⟩
  | perform ready rest =>
    cases same
    exact .inr ⟨_, _, .refl, ready, rfl, rest⟩
  | call rest => cases same

theorem of_call {c : Call h} {next : ListenerResult → Program h α}
    (ran : (Program.call c next).Advances app meanwhile t w path q w') :
    path = [] ∧ q = .call c next ∧ Relation.ReflTransGen meanwhile w w' ∨
      ∃ rest, path = .called c :: rest ∧
        ((app.body c).bind next).Advances app meanwhile t w rest q w' := by
  generalize same : Program.call c next = p at ran
  induction ran with
  | stay p w => exact .inl ⟨rfl, same ▸ rfl, .refl⟩
  | others moved _ ih =>
    rcases ih same with ⟨path, left, later⟩ | ⟨rest, path, ran⟩
    · exact .inl ⟨path, left, .head moved later⟩
    · exact .inr ⟨rest, path, .others moved ran⟩
  | perform ready rest => cases same
  | call rest =>
    cases same
    exact .inr ⟨_, rfl, rest⟩

section Returns

variable {a : α}

theorem returns_of_bind {f : α → Program h β} {b : β}
    (ran : (p.bind f).Advances app meanwhile t w path (.done b) w') :
    ∃ first w₁ a rest, path = first ++ rest ∧ p.Advances app meanwhile t w first (.done a) w₁ ∧
      (f a).Advances app meanwhile t w₁ rest (.done b) w' := by
  rcases ran.of_bind with ⟨p', isOpen, -, left⟩ | ended
  · exact absurd left.symm (isOpen.bind f b)
  · exact ended

theorem returns_of_perform {o : Op h} {next : o.Answer → Program h α}
    (ran : (Program.perform o next).Advances app meanwhile t w path (.done a) w') :
    ∃ (w₁ : World h) (rest : List (Occurrence h)), path = .performed o (w₁.answer t o).1 :: rest ∧
      (next (w₁.answer t o).1).Advances app meanwhile t (w₁.answer t o).2 rest (.done a) w' := by
  rcases ran.of_perform with ⟨-, left, -⟩ | ⟨w₁, rest, -, -, rfl, ended⟩
  · cases left
  · exact ⟨w₁, rest, rfl, ended⟩

theorem returns_of_call {c : Call h} {next : ListenerResult → Program h α}
    (ran : (Program.call c next).Advances app meanwhile t w path (.done a) w') :
    ∃ rest, path = .called c :: rest ∧
      ((app.body c).bind next).Advances app meanwhile t w rest (.done a) w' := by
  rcases ran.of_call with ⟨-, left, -⟩ | ended
  · cases left
  · exact ended

end Returns

end Advances
end Program

namespace World

/-- States that differ only in what has been told. -/
def Retold (w v : World h) : Prop := ∃ trail, v = { w with trail }

theorem Retold.refl (w : World h) : w.Retold w := ⟨w.trail, rfl⟩

theorem Retold.trans {u v w : World h} (first : w.Retold v) (second : v.Retold u) : w.Retold u := by
  obtain ⟨trail, rfl⟩ := first
  obtain ⟨trail', rfl⟩ := second
  exact ⟨trail', rfl⟩

/-- No step depends on what has been told before. -/
theorem Retold.answer {v w : World h} (retold : w.Retold v) (t : Thread) (o : Op h) :
    v.isReady t o = w.isReady t o ∧ (v.answer t o).1 = (w.answer t o).1 ∧
      (w.answer t o).2.Retold (v.answer t o).2 := by
  obtain ⟨trail, rfl⟩ := retold
  cases o with
  | host o =>
    cases o with
    | register type =>
      refine ⟨rfl, ?_⟩
      simp only [World.answer, answerHost]
      split <;> exact ⟨rfl, trail, rfl⟩
    | _ => exact ⟨rfl, rfl, _, rfl⟩
  | publish ctx message =>
    refine ⟨rfl, ?_⟩
    simp only [World.answer, publish]
    split
    · exact ⟨rfl, trail, rfl⟩
    · exact ⟨rfl, trail, rfl⟩
    · split <;> exact ⟨rfl, trail, rfl⟩
    · exact ⟨rfl, trail, rfl⟩
    · exact ⟨rfl, _, rfl⟩
  | _ => exact ⟨rfl, rfl, trail, rfl⟩

/-- What the others do does not depend on what has been told. -/
def Deaf (meanwhile : World h → World h → Prop) : Prop :=
  ∀ w w₁ v, w.Retold v → meanwhile w w₁ → ∃ v₁, meanwhile v v₁ ∧ w₁.Retold v₁

def Steps (w w₁ : World h) : Prop := ∃ t o, w.isReady t o ∧ w₁ = (w.answer t o).2

theorem deaf_steps : Deaf (h := h) Steps := by
  rintro w w₁ v retold ⟨t, o, ready, rfl⟩
  obtain ⟨same, -, retold'⟩ := retold.answer t o
  exact ⟨_, ⟨t, o, same.trans ready, rfl⟩, retold'⟩

theorem Deaf.moves {meanwhile : World h → World h → Prop} {v w w₁ : World h} (deaf : Deaf meanwhile)
    (retold : w.Retold v) (moved : Relation.ReflTransGen meanwhile w w₁) :
    ∃ v₁, Relation.ReflTransGen meanwhile v v₁ ∧ w₁.Retold v₁ := by
  induction moved with
  | refl => exact ⟨v, .refl, retold⟩
  | tail _ last ih =>
    obtain ⟨v₁, moved, retold₁⟩ := ih
    obtain ⟨v₂, last, retold₂⟩ := deaf _ _ _ retold₁ last
    exact ⟨v₂, moved.tail last, retold₂⟩

end World

/-- A thread gets as far wherever the same has not been told. -/
theorem Program.Advances.retold {app : Application h} {meanwhile : World h → World h → Prop}
    {t : Thread} {p q : Program h α} {v w w' : World h} {path : List (Occurrence h)}
    (deaf : World.Deaf meanwhile) (ran : p.Advances app meanwhile t w path q w')
    (retold : w.Retold v) : ∃ v', p.Advances app meanwhile t v path q v' ∧ w'.Retold v' := by
  induction ran generalizing v with
  | stay p w => exact ⟨v, .stay p v, retold⟩
  | others moved _ ih =>
    obtain ⟨v₁, moved, retold₁⟩ := deaf _ _ _ retold moved
    obtain ⟨v', ran, retold'⟩ := ih retold₁
    exact ⟨v', .others moved ran, retold'⟩
  | perform ready _ ih =>
    obtain ⟨ready', same, retold₁⟩ := retold.answer t _
    obtain ⟨v', ran, retold'⟩ := ih retold₁
    rw [← same] at ran ⊢
    exact ⟨v', .perform (ready'.trans ready) ran, retold'⟩
  | call _ ih =>
    obtain ⟨v', ran, retold'⟩ := ih retold
    exact ⟨v', .call ran, retold'⟩

end EventDispatch
