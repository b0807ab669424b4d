import EventDispatch.Proofs.Runs

namespace EventDispatch

variable {h : Host} {α : Type}

namespace World

def markOf? (t : Thread) : Thread × Trace h → Option h.Mark
  | (t', .mark m) => if t' = t then some m else none
  | (_, .notice _) => none

def marks (w : World h) (t : Thread) : List h.Mark := w.trail.reverse.filterMap (markOf? t)

variable {w w' : World h} {t t' : Thread}

theorem marks_of_trail {told : List (Trace h)} (trail : w'.trail = told.map (t', ·) ++ w.trail) :
    w'.marks t = w.marks t ++ (told.reverse.map (t', ·)).filterMap (markOf? t) := by
  rw [marks, trail, List.reverse_append, List.filterMap_append, ← List.map_reverse]
  rfl

/-- A step tells something in its own thread's name, or nothing. -/
theorem trail_answer (w : World h) (t : Thread) (o : Op h) :
    ∃ told : List (Trace h), (w.answer t o).2.trail = told.map (t, ·) ++ w.trail := by
  cases o with
  | host o =>
    cases o with
    | log n => exact ⟨[.notice n], rfl⟩
    | mark m => exact ⟨[.mark m], rfl⟩
    | register type =>
      obtain ⟨types, after⟩ := w.register_concerns t type
      exact ⟨[], congrArg (·.trail) after⟩
    | _ => exact ⟨[], rfl⟩
  | publish ctx m =>
    simp only [answer, publish]
    split
    · exact ⟨[], rfl⟩
    · exact ⟨[], rfl⟩
    · split <;> exact ⟨[], rfl⟩
    · exact ⟨[], rfl⟩
    · exact ⟨[_], rfl⟩
  | _ => exact ⟨[], rfl⟩

/-- Threads leave their marks in their own names. -/
theorem marks_answer_of_ne (other : t' ≠ t) (w : World h) (o : Op h) :
    (w.answer t' o).2.marks t = w.marks t := by
  obtain ⟨told, trail⟩ := w.trail_answer t' o
  rw [marks_of_trail trail, List.filterMap_eq_nil_iff.2, List.append_nil]
  intro entry mem
  obtain ⟨x, -, rfl⟩ := List.mem_map.1 mem
  cases x with
  | notice n => rfl
  | mark m => exact if_neg other

theorem marks_prefix_answer (w : World h) (t : Thread) (o : Op h) :
    w.marks t <+: (w.answer t o).2.marks t := by
  obtain ⟨told, trail⟩ := w.trail_answer t o
  rw [marks_of_trail trail]
  exact List.prefix_append _ _

theorem marks_mark (w : World h) (t : Thread) (m : h.Mark) :
    (w.answer t (.host (.mark m))).2.marks t = w.marks t ++ [m] := by
  have trail : (w.answer t (.host (.mark m))).2.trail = [Trace.mark m].map (t, ·) ++ w.trail := rfl
  rw [marks_of_trail trail]
  exact congrArg _ (List.filterMap_cons_some (if_pos rfl))

end World

namespace Program

variable {app : Application h} {meanwhile : World h → World h → Prop} {t : Thread}

/-- A program leaves its own marks after those that its thread has left before. -/
theorem Runs.marks_prefix {p : Program h α} {w w' : World h} {path : List (Footstep h)} {a : α}
    (quiet : ∀ v v', meanwhile v v' → v'.marks t = v.marks t)
    (ran : p.Runs app meanwhile t w path w' a) : w.marks t <+: w'.marks t := by
  induction ran with
  | done a w => exact List.prefix_refl _
  | @perform α o next w w₁ w' path a ready others _ ih =>
    rw [quiet _ _ others] at ih
    exact (w.marks_prefix_answer t o).trans ih
  | call _ _ body ih => exact body.trans ih

/-- In every run the program leaves marks and answers as `good` says, and it has a run from every
state. -/
def Leaves (app : Application h) (meanwhile : World h → World h → Prop) (t : Thread)
    (p : Program h α) (good : List h.Mark → α → Prop) : Prop :=
  ∀ w, (∀ path w' a, p.Runs app meanwhile t w path w' a →
      ∃ ms, w'.marks t = w.marks t ++ ms ∧ good ms a) ∧
    ∃ path w' a, p.Runs app meanwhile t w path w' a

theorem leaves_done {good : List h.Mark → α → Prop} {a : α} (holds : good [] a) :
    (done a).Leaves app meanwhile t good := by
  refine fun w => ⟨fun path w' b ran => ?_, [], w, a, .done a w⟩
  obtain ⟨-, rfl, rfl⟩ := runs_done_iff.1 ran
  exact ⟨[], (List.append_nil _).symm, holds⟩

theorem Leaves.mark {m : h.Mark} {next : Unit → Program h α} {good : List h.Mark → α → Prop}
    (quiet : ∀ v v' : World h, meanwhile v v' → v'.marks t = v.marks t) (idle : ∀ v, meanwhile v v)
    (rest : (next ()).Leaves app meanwhile t fun ms a => good (m :: ms) a) :
    (perform (.host (.mark m)) next).Leaves app meanwhile t good := by
  refine fun w => ⟨fun path w' a ran => ?_, ?_⟩
  · obtain ⟨-, w₁, tail, others, rfl, after⟩ := runs_perform_iff.1 ran
    obtain ⟨ms, marks, holds⟩ := (rest w₁).1 _ _ _ after
    rw [quiet _ _ others, World.marks_mark, List.append_assoc] at marks
    exact ⟨m :: ms, marks, holds⟩
  · obtain ⟨tail, w', a, after⟩ := (rest (w.answer t (.host (.mark m))).2).2
    exact ⟨_, w', a, .perform rfl (idle _) after⟩

end Program
end EventDispatch
