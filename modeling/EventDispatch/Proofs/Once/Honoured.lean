import EventDispatch.Proofs.Once.Overtaken
import EventDispatch.Proofs.Runs

namespace EventDispatch

variable {h : Host} {α : Type} {ids : List Nat}

/-- Nothing with one of these ids was registered on the way. -/
structure World.Honours (ids : List Nat) (w w' : World h) : Prop where
  lastId : w.lastId ≤ w'.lastId
  entries : ∀ name, ∀ e ∈ w'.registry.entries name, e.id ∈ ids → e ∈ w.registry.entries name

namespace World.Honours

theorem refl (w : World h) : w.Honours ids w := ⟨Nat.le_refl _, fun _ _ he _ => he⟩

theorem trans {w w₁ w₂ : World h} (first : w.Honours ids w₁) (second : w₁.Honours ids w₂) :
    w.Honours ids w₂ where
  lastId := Nat.le_trans first.lastId second.lastId
  entries name e he known := first.entries name e (second.entries name e he known) known

theorem of_subset {w w' : World h} (lastId : w'.lastId = w.lastId)
    (entries : ∀ name, w'.registry.entries name ⊆ w.registry.entries name) : w.Honours ids w' where
  lastId := Nat.le_of_eq lastId.symm
  entries := fun _ _ he _ => entries _ he

theorem of_same {w w' : World h} (lastId : w'.lastId = w.lastId)
    (entries : w'.registry.entries = w.registry.entries) : w.Honours ids w' :=
  of_subset lastId fun _ => entries ▸ List.Subset.refl _

end World.Honours

/-- The ids were given out, and none of them to this thread for an entry that it has yet to
register. -/
structure Standing.Avoids (ids : List Nat) (s : Standing h) (w : World h) : Prop where
  given : ∀ i ∈ ids, i ≤ w.lastId
  issued : ∀ i, s.phase = .issued i → i ∉ ids

namespace Standing

variable {s s' : Standing h} {w w' : World h} {t : Thread} {o : Op h}

theorem Avoids.mono (avoids : s.Avoids ids w) (later : w.lastId ≤ w'.lastId)
    (issued : ∀ i, s'.phase = .issued i → s.phase = .issued i) : s'.Avoids ids w' where
  given i hi := Nat.le_trans (avoids.given i hi) later
  issued i hi := avoids.issued i (issued i hi)

theorem Avoids.of_free (given : ∀ i ∈ ids, i ≤ w.lastId) (free : s.phase = .free) :
    s.Avoids ids w where
  given := given
  issued i hi := by
    rw [free] at hi
    cases hi

/-- Only with the step by which it takes an id does a thread come to hold one. -/
theorem issued_of_after (a : o.Answer) (other : o ≠ .takeId) {i : Nat}
    (hi : (s.after (.performed o a)).phase = .issued i) : s.phase = .issued i := by
  cases o with
  | takeId => exact absurd rfl other
  | insert name e => cases hi
  | removeAll name gone =>
    simp only [Standing.after] at hi
    split at hi <;> cases hi
  | retire id =>
    cases a with
    | true => cases hi
    | false => exact hi
  | claim e =>
    simp only [Standing.after] at hi
    split at hi
    · cases hi
    · exact hi
  | release e => cases hi
  | spent es =>
    simp only [Standing.after] at hi
    split at hi <;> cases hi
  | enqueue job =>
    cases job with
    | listener e ctx event =>
      cases a with
      | ok u => cases hi
      | error e => exact hi
    | _ => exact hi
  | _ => exact hi

/-- A thread that takes a step under the protocol of claims registers nothing under these ids. -/
theorem Avoids.honours (avoids : s.Avoids ids w) (may : s.MayPerform o) :
    w.Honours ids (w.answer t o).2 := by
  by_cases plain : o.IsPlain
  · obtain ⟨lastId, entries, -⟩ := w.answer_plain t plain
    exact .of_same lastId entries
  cases o with
  | takeId => exact ⟨Nat.le_succ _, fun _ _ he _ => he⟩
  | insert name e =>
    refine ⟨Nat.le_refl _, fun n x hx known => ?_⟩
    rcases Registry.mem_entries_insert.1 hx with before | ⟨-, rfl⟩
    · exact before
    · exact absurd known (avoids.issued x.id may)
  | removeAll name gone =>
    exact .of_subset rfl fun n x hx => (Registry.mem_entries_removeAll.1 hx).1
  | claim e =>
    exact .of_same rfl (funext fun _ => Registry.entries_congr (w.registry.listeners_claim e))
  | release e =>
    exact .of_same rfl (funext fun _ => Registry.entries_congr (w.registry.listeners_release e))
  | _ => first | exact absurd trivial plain | exact .of_same rfl rfl

theorem Avoids.after (avoids : s.Avoids ids w) (may : s.MayPerform o) :
    (s.after (.performed o (w.answer t o).1)).Avoids ids (w.answer t o).2 := by
  have later := (avoids.honours (t := t) may).lastId
  by_cases taking : o = .takeId
  · subst taking
    refine ⟨fun i hi => Nat.le_trans (avoids.given i hi) later, ?_⟩
    -- The new id is above all of them.
    rintro i hi mem
    have below := avoids.given i mem
    have new : w.lastId + 1 = i := Phase.issued.inj hi
    omega
  · exact avoids.mono later fun i hi => issued_of_after _ taking hi

end Standing

open Standing

/-- What a thread runs under the protocol of claims registers nothing under ids that were given out
before, if the others do not. -/
theorem Program.Runs.honours {app : Application h} {t : Thread} {p : Program h α} {w w' : World h}
    {path : List (Footstep h)} {a : α} {s : Standing h} {Q : Standing h → α → Prop}
    (ran : p.Runs app (World.Honours ids) t w path w' a) (keeps : p.Keeps claiming s Q)
    (avoids : s.Avoids ids w) : w.Honours ids w' ∧ ∃ s', Q s' a ∧ s'.Avoids ids w' := by
  induction ran generalizing s with
  | done a w => exact ⟨.refl w, s, keeps, avoids⟩
  | @perform β o next w w₁ w' path a ready others rest ih =>
    have own := avoids.honours (t := t) keeps.1
    have moved := (avoids.after (t := t) keeps.1).mono others.lastId fun _ hi => hi
    obtain ⟨honours, left⟩ := ih (keeps.2 _ (w.answers_claiming t o)) moved
    exact ⟨(own.trans others).trans honours, left⟩
  | @call β c next w w₁ w' inner path r a body rest ihb ih =>
    -- The body ends where the protocol says that it may, and there the thread goes on.
    have calm : (s.after (.called c)).phase = .free := claiming.calm_of_mayCall keeps.1
    have begun := (claiming_upheld app).bodies s c keeps.1
    obtain ⟨within, s₁, leads, avoids⟩ := ihb begun (.of_free avoids.given calm)
    obtain ⟨honours, left⟩ := ih (keeps.2 s₁ leads r) avoids
    exact ⟨within.trans honours, left⟩

namespace Account

/-- A deed registers nothing under an id that an entry has or had. -/
theorem Deed.honours {a : Actor} {b c : Account h} (deed : b.Deed a c) (filed : b.Filed) :
    b.lastId ≤ c.lastId ∧ b.ledger.subscribed ⊆ c.ledger.subscribed ∧
      ∀ name, ∀ e ∈ c.registry.entries name,
        (∃ x ∈ b.ledger.subscribed, x.2.id = e.id) → e ∈ b.registry.entries name := by
  have removed : ∀ name ids n, (b.registry.removeAll name ids).entries n ⊆ b.registry.entries n :=
    fun name ids n x hx => (Registry.mem_entries_removeAll.1 hx).1
  cases deed with
  | plain ledger lastId entries claimed =>
    refine ⟨Nat.le_of_eq lastId.symm, ?_, fun name e he _ => ?_⟩
    · rw [ledger]
      exact List.Subset.refl _
    · rwa [entries] at he
  | takeId free => exact ⟨Nat.le_succ _, List.Subset.refl _, fun _ _ he _ => he⟩
  | insert name e issued =>
    refine ⟨Nat.le_refl _, List.subset_cons_self _ _, fun n x hx known => ?_⟩
    rcases Registry.mem_entries_insert.1 hx with before | ⟨-, rfl⟩
    · exact before
    · obtain ⟨y, hy, id⟩ := known
      exact absurd id (filed.issued_new a x.id issued y hy)
  | drop name id retiring =>
    exact ⟨Nat.le_refl _, List.Subset.refl _, fun n _ he _ => removed name [id] n he⟩
  | clear name ids clearing known =>
    exact ⟨Nat.le_refl _, List.Subset.refl _, fun n _ he _ => removed name ids n he⟩
  | _ => exact ⟨Nat.le_refl _, List.Subset.refl _, fun _ _ he _ => he⟩

end Account

namespace Course

variable {app : Application h} {s : Course h α}

theorem Reachable.move (reached : s.Reachable app) (m : Move) : (move app s m).Reachable app := by
  obtain ⟨c, publisher, host, scripts, moves, rfl⟩ := reached
  exact ⟨c, publisher, host, scripts, moves ++ [m], (List.foldl_concat ..).symm⟩

theorem Reachable.honours_move (reached : s.Reachable app) (m : Move)
    (known : ∀ i ∈ ids, ∃ x ∈ s.ledger.subscribed, x.2.id = i) :
    s.world.Honours ids (Course.move app s m).world ∧
      s.ledger.subscribed ⊆ (Course.move app s m).ledger.subscribed := by
  cases m with
  | turn a =>
    rcases move_turn (a := a) with same | ⟨m, o, moved, turned, others⟩
    · rw [same]
      exact ⟨.refl _, List.Subset.refl _⟩
    · rw [moved]
      have deed := deed_of_turned reached.orderly turned
      obtain ⟨lastId, subscribed, entries⟩ := deed.honours reached.filed
      exact ⟨⟨lastId, fun name e he mem => entries name e he (known e.id mem)⟩, subscribed⟩
  | refit capacity closed isSealed => exact ⟨.of_same rfl rfl, List.Subset.refl _⟩

/-- All that the threads of a dispatcher do honours the ids that entries have. -/
theorem Reachable.honours_later (reached : s.Reachable app)
    (known : ∀ i ∈ ids, ∃ x ∈ s.ledger.subscribed, x.2.id = i) (moves : List Move) :
    s.world.Honours ids (moves.foldl (Course.move app) s).world := by
  induction moves generalizing s with
  | nil => exact .refl _
  | cons m rest ih =>
    obtain ⟨first, subscribed⟩ := reached.honours_move m known
    have later := ih (reached.move m) fun i hi =>
      (known i hi).imp fun x hx => ⟨subscribed hx.1, hx.2⟩
    exact first.trans later

end Course
end EventDispatch
