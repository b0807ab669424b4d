import EventDispatch.Proofs.Pool.Roll
import Mathlib.Data.List.Nodup
import Mathlib.Data.List.Range

namespace EventDispatch.Inventory

variable {h : Host} {a : Actor} {b c : Inventory h}

structure Conserved (b : Inventory h) : Prop where
  room : b.pool.queue.length ≤ b.pool.capacity
  in_order : b.roll.accepted = b.roll.taken ++ b.pool.queue
  placed : (b.roll.finished ++ b.roll.running.map (·.2)).Perm (List.range b.roll.taken.length)
  crewed : b.pool.busy = b.roll.running.map (·.1)
  alone : b.pool.busy.Nodup
  ended : b.pool.stats.completed + b.pool.stats.panicked = b.roll.finished.length

namespace Conserved

theorem start (size capacity : Nat) : Conserved (h := h) ⟨.empty, .start size capacity⟩ :=
  ⟨Nat.zero_le _, rfl, .refl _, rfl, List.nodup_nil, rfl⟩

theorem accept (hb : b.Conserved) (job : Job h) (room : b.pool.queue.length < b.pool.capacity) :
    Conserved { b.move a .accepted with
      roll.accepted := b.roll.accepted ++ [job]
      pool.queue := b.pool.queue ++ [job]
      pool.held := true } where
  room := by
    show (b.pool.queue ++ [job]).length ≤ b.pool.capacity
    rw [List.length_append, List.length_singleton]
    exact room
  in_order := by
    show b.roll.accepted ++ [job] = b.roll.taken ++ (b.pool.queue ++ [job])
    rw [hb.in_order, List.append_assoc]
  placed := hb.placed
  crewed := hb.crewed
  alone := hb.alone
  ended := hb.ended

theorem take (hb : b.Conserved) {n : Nat} {job : Job h} {rest : List (Job h)}
    (first : b.pool.queue = job :: rest) (idle : n ∉ b.pool.busy) :
    Conserved { b with
      roll.taken := b.roll.taken ++ [job]
      roll.running := (n, b.roll.taken.length) :: b.roll.running
      pool.queue := rest
      pool.busy := n :: b.pool.busy } where
  room := by
    have room := hb.room
    rw [first, List.length_cons] at room
    exact Nat.le_of_succ_le room
  in_order := by
    show b.roll.accepted = b.roll.taken ++ [job] ++ rest
    rw [hb.in_order, first, List.append_assoc, List.singleton_append]
  placed := by
    show (b.roll.finished ++ b.roll.taken.length :: b.roll.running.map (·.2)).Perm
      (List.range (b.roll.taken ++ [job]).length)
    rw [List.length_append, List.length_singleton, List.range_succ]
    -- The job that is taken comes last among the places, and first among those that run.
    exact List.perm_middle.trans ((hb.placed.cons _).trans (List.perm_append_singleton _ _).symm)
  crewed := congrArg (n :: ·) hb.crewed
  alone := List.nodup_cons.2 ⟨idle, hb.alone⟩
  ended := hb.ended

/-- A busy worker runs one job. -/
theorem length_placesOf (hb : b.Conserved) {n : Nat} (runs : n ∈ b.pool.busy) :
    (b.roll.placesOf n).length = 1 := by
  have alone := hb.alone
  rw [hb.crewed] at runs alone
  have one := List.count_eq_one_of_mem alone runs
  rw [List.count, List.countP_map, List.countP_eq_length_filter] at one
  rw [Roll.placesOf, List.length_map]
  exact one

theorem finish (hb : b.Conserved) {n : Nat} {k : Counter} (outcome : k = .completed ∨ k = .panicked)
    (runs : n ∈ b.pool.busy) :
    Conserved { b with
      roll.running := b.roll.running.filter (·.1 != n)
      roll.finished := b.roll.finished ++ b.roll.placesOf n
      pool := b.pool.finish n k } where
  room := hb.room
  in_order := hb.in_order
  placed := by
    refine .trans ?_ hb.placed
    show (b.roll.finished ++ b.roll.placesOf n ++ (b.roll.running.filter (·.1 != n)).map (·.2)).Perm _
    rw [List.append_assoc, Roll.placesOf, ← List.map_append]
    exact (List.filter_append_perm (·.1 == n) b.roll.running).map (·.2) |>.append_left _
  crewed := by
    show b.pool.busy.filter (· != n) = (b.roll.running.filter (·.1 != n)).map (·.1)
    rw [hb.crewed, List.filter_map]
    rfl
  alone := hb.alone.filter _
  ended := by
    have ended := hb.ended
    show (b.pool.stats.bump k).completed + (b.pool.stats.bump k).panicked =
      (b.roll.finished ++ b.roll.placesOf n).length
    rw [List.length_append, hb.length_placesOf runs]
    rcases outcome with rfl | rfl <;> simp only [PoolStats.bump] <;> omega

theorem deed (hb : b.Conserved) (deed : Deed a b c) : c.Conserved := by
  have kept := hb
  obtain ⟨room, in_order, placed, crewed, alone, ended⟩ := kept
  cases deed with
  | accept job cleared unheld unsealed free => exact hb.accept job free
  | take n job rest first idle => exact hb.take first idle
  | finish n k outcome runs => exact hb.finish outcome runs
  | _ => exact ⟨room, in_order, placed, crewed, alone, ended⟩

/-- The places of the jobs that wait follow those of the jobs that were taken. -/
theorem placed_all (hb : b.Conserved) :
    (b.roll.finished ++ b.roll.running.map (·.2) ++
      List.range' b.roll.taken.length b.pool.queue.length).Perm
        (List.range b.roll.accepted.length) := by
  rw [hb.in_order, List.length_append, List.range_eq_range', ← List.range'_append_1, Nat.zero_add,
    ← List.range_eq_range']
  exact hb.placed.append_right _

theorem finished_nodup (hb : b.Conserved) : b.roll.finished.Nodup :=
  (List.nodup_append.1 (hb.placed.nodup_iff.2 List.nodup_range)).1

theorem lt_of_mem_finished (hb : b.Conserved) {place : Nat} (mem : place ∈ b.roll.finished) :
    place < b.roll.accepted.length := by
  have taken := hb.placed.subset (List.mem_append_left _ mem)
  rw [hb.in_order, List.length_append]
  exact Nat.lt_add_right _ (List.mem_range.1 taken)

end Conserved

theorem stage_move (b : Inventory h) (a : Actor) (s : Stage) (a' : Actor) :
    (b.move a s).stage a' = if a' = a then s else b.stage a' :=
  Function.update_apply b.stage a s a'

def Holds (b : Inventory h) (a : Actor) : Prop := b.stage a = .accepted ∨ b.stage a = .refused

structure Counted (b : Inventory h) : Prop where
  held : ∀ a, b.Holds a → b.pool.held = true
  sole : ∀ a a', b.Holds a → b.Holds a' → a = a'
  all_counted : (∀ a, b.stage a ≠ .accepted) → b.pool.stats.submitted = b.roll.accepted.length
  one_behind : ∀ a, b.stage a = .accepted → b.pool.stats.submitted + 1 = b.roll.accepted.length
  settled : b.pool.sealed = true → ∀ a, b.stage a ≠ .accepted
  shutting : ∀ a, b.stage a = .closing ∨ b.stage a = .waiting → b.pool.sealed = true

namespace Counted

theorem start (size capacity : Nat) : Counted (h := h) ⟨.empty, .start size capacity⟩ where
  held a holds := by rcases holds with holds | holds <;> cases holds
  sole a _ holds := by rcases holds with holds | holds <;> cases holds
  all_counted _ := rfl
  one_behind a accepted := by cases accepted
  settled shut := by cases shut
  shutting a shutting := by rcases shutting with shutting | shutting <;> cases shutting

theorem not_holds (hb : b.Counted) (unheld : b.pool.held = false) (a : Actor) : ¬b.Holds a := by
  intro holds
  rw [hb.held a holds] at unheld
  cases unheld

theorem shutting_of_move (hb : b.Counted) {s : Stage} (after : s ≠ .closing ∧ s ≠ .waiting) (a' : Actor)
    (shutting : (b.move a s).stage a' = .closing ∨ (b.move a s).stage a' = .waiting) :
    b.pool.sealed = true := by
  rw [stage_move] at shutting
  split at shutting
  · exact absurd shutting (not_or.2 after)
  · exact hb.shutting a' shutting

/-- A thread without the queue moves on to a stage where it does not have it either. -/
theorem move (hb : b.Counted) (s : Stage) (before : ¬b.Holds a) (after : s ≠ .accepted ∧ s ≠ .refused)
    (shut : (s ≠ .closing ∧ s ≠ .waiting) ∨ b.pool.sealed = true) : (b.move a s).Counted := by
  have holds : ∀ a', (b.move a s).Holds a' → b.Holds a' := by
    intro a' holds
    rw [Holds, stage_move] at holds
    split at holds
    · exact absurd holds (not_or.2 after)
    · exact holds
  have accepted : ∀ a', (b.move a s).stage a' = .accepted ↔ b.stage a' = .accepted := by
    intro a'
    rw [stage_move]
    split
    · next same =>
      subst same
      exact iff_of_false after.1 fun accepted => before (.inl accepted)
    · rfl
  exact {
    held := fun a' ha => hb.held a' (holds a' ha)
    sole := fun a' a'' ha ha' => hb.sole a' a'' (holds a' ha) (holds a'' ha')
    all_counted := fun none => hb.all_counted fun a' => mt (accepted a').2 (none a')
    one_behind := fun a' ha => hb.one_behind a' ((accepted a').1 ha)
    settled := fun settled a' ha => hb.settled settled a' ((accepted a').1 ha)
    shutting := fun a' shutting => shut.elim (hb.shutting_of_move · a' shutting) id }

/-- Who gets the queue when nobody has it is the only one. -/
theorem holder_of_move (hb : b.Counted) (unheld : b.pool.held = false) {s : Stage} {a' : Actor}
    (holds : (b.move a s).Holds a') : a' = a := by
  rw [Holds, stage_move] at holds
  split at holds
  · next same => exact same
  · exact absurd holds (hb.not_holds unheld a')

theorem accept (hb : b.Counted) (job : Job h) (unheld : b.pool.held = false)
    (unsealed : b.pool.sealed = false) :
    Counted { b.move a .accepted with
      roll.accepted := b.roll.accepted ++ [job]
      pool.queue := b.pool.queue ++ [job]
      pool.held := true } where
  held _ _ := rfl
  sole a' a'' ha ha' := (hb.holder_of_move unheld ha).trans (hb.holder_of_move unheld ha').symm
  all_counted none := (none a (Function.update_self a _ b.stage)).elim
  one_behind _ _ := by
    show b.pool.stats.submitted + 1 = (b.roll.accepted ++ [job]).length
    rw [List.length_append, List.length_singleton,
      hb.all_counted fun a' accepted => hb.not_holds unheld a' (.inl accepted)]
  settled shut := by
    rw [show b.pool.sealed = true from shut] at unsealed
    cases unsealed
  shutting := hb.shutting_of_move (by decide)

theorem refuse (hb : b.Counted) (unheld : b.pool.held = false) :
    Counted { b.move a .refused with pool.held := true } := by
  have none : ∀ a', (b.move a .refused).stage a' ≠ .accepted := by
    intro a' accepted
    rw [stage_move] at accepted
    split at accepted
    · cases accepted
    · exact hb.not_holds unheld a' (.inl accepted)
  exact {
    held := fun _ _ => rfl
    sole := fun a' a'' ha ha' => (hb.holder_of_move unheld ha).trans (hb.holder_of_move unheld ha').symm
    all_counted := fun _ => hb.all_counted fun a' accepted => hb.not_holds unheld a' (.inl accepted)
    one_behind := fun a' accepted => absurd accepted (none a')
    settled := fun _ => none
    shutting := hb.shutting_of_move (by decide) }

/-- Once a job is counted, nobody has the queue. -/
theorem count (hb : b.Counted) (holds : b.Holds a) (k : Counter)
    (counted : (b.pool.stats.bump k).submitted = b.roll.accepted.length) :
    Counted { b.move a .free with pool := b.pool.settle k } := by
  have none : ∀ a', ¬(b.move a .free).Holds a' := by
    intro a' ha
    rw [Holds, stage_move] at ha
    split at ha
    · rcases ha with ha | ha <;> cases ha
    · next other => exact other (hb.sole a' a ha holds)
  exact {
    held := fun a' ha => absurd ha (none a')
    sole := fun a' _ ha => absurd ha (none a')
    all_counted := fun _ => counted
    one_behind := fun a' accepted => absurd (.inl accepted) (none a')
    settled := fun _ a' accepted => none a' (.inl accepted)
    shutting := hb.shutting_of_move (by decide) }

theorem not_holds_of_stage {s : Stage} (stage : b.stage a = s) (other : s ≠ .accepted ∧ s ≠ .refused) :
    ¬b.Holds a := by
  rw [Holds, stage]
  exact not_or.2 other

theorem deed (hb : b.Counted) (deed : Deed a b c) : c.Counted := by
  have kept := hb
  obtain ⟨held, sole, all_counted, one_behind, settled, shutting⟩ := kept
  cases deed with
  | same => exact hb
  | clear free =>
    exact hb.move .cleared (not_holds_of_stage free (by decide)) (by decide) (.inl (by decide))
  | accept job cleared unheld unsealed room => exact hb.accept job unheld unsealed
  | refuse cleared unheld => exact hb.refuse unheld
  | tally free => exact ⟨held, sole, all_counted, one_behind, settled, shutting⟩
  | countAccepted accepted => exact hb.count (.inl accepted) .submitted (one_behind a accepted)
  | countRefused refused =>
    refine hb.count (.inr refused) .rejected (all_counted fun a' accepted => ?_)
    cases sole a' a (.inl accepted) (.inr refused)
    cases accepted.symm.trans refused
  | close free => exact ⟨held, sole, all_counted, one_behind, settled, shutting⟩
  | closeQueue free unheld =>
    -- Nobody has the queue, so no job is left to count.
    have shut : Counted { b with pool.sealed := true } :=
      ⟨held, sole, all_counted, one_behind, fun _ a' ha => hb.not_holds unheld a' (.inl ha),
        fun _ _ => rfl⟩
    exact shut.move .closing (hb.not_holds unheld a) (by decide) (.inr rfl)
  | wait closing first =>
    have moved := hb.move .waiting (not_holds_of_stage closing (by decide)) (by decide)
      (.inr (shutting a (.inl closing)))
    exact ⟨moved.held, moved.sole, moved.all_counted, moved.one_behind, moved.settled, moved.shutting⟩
  | pass closing =>
    exact hb.move .free (not_holds_of_stage closing (by decide)) (by decide) (.inl (by decide))
  | drain waiting =>
    exact hb.move .free (not_holds_of_stage waiting (by decide)) (by decide) (.inl (by decide))
  | take n job rest first idle => exact ⟨held, sole, all_counted, one_behind, settled, shutting⟩
  | finish n k outcome runs =>
    rcases outcome with rfl | rfl
    · exact ⟨held, sole, all_counted, one_behind, settled, shutting⟩
    · exact ⟨held, sole, all_counted, one_behind, settled, shutting⟩

end Counted

structure Emptied (b : Inventory h) : Prop where
  shut : b.pool.sealed = true
  queue : b.pool.queue = []
  busy : b.pool.busy = []

namespace Emptied

theorem deed (hb : b.Emptied) (deed : Deed a b c) : c.Emptied := by
  obtain ⟨shut, queue, busy⟩ := hb
  cases deed with
  | accept job cleared unheld unsealed room =>
    rw [shut] at unsealed
    cases unsealed
  | take n job rest first idle =>
    rw [queue] at first
    cases first
  | finish n k outcome runs =>
    rw [busy] at runs
    cases runs
  | closeQueue free unheld => exact ⟨rfl, queue, busy⟩
  | _ => exact ⟨shut, queue, busy⟩

theorem running (hb : b.Emptied) (conserved : b.Conserved) : b.roll.running = [] := by
  have crewed := conserved.crewed
  rw [hb.busy] at crewed
  exact List.map_eq_nil_iff.1 crewed.symm

theorem finished (hb : b.Emptied) (conserved : b.Conserved) :
    b.roll.finished.Perm (List.range b.roll.accepted.length) := by
  have placed := conserved.placed
  rw [hb.running conserved, List.map_nil, List.append_nil] at placed
  rw [conserved.in_order, hb.queue, List.append_nil]
  exact placed

theorem submitted (hb : b.Emptied) (conserved : b.Conserved) (counted : b.Counted) :
    b.pool.stats.completed + b.pool.stats.panicked = b.pool.stats.submitted := by
  calc b.pool.stats.completed + b.pool.stats.panicked
    _ = b.roll.finished.length := conserved.ended
    _ = b.roll.accepted.length := by rw [(hb.finished conserved).length_eq, List.length_range]
    _ = b.pool.stats.submitted := (counted.all_counted (counted.settled hb.shut)).symm

end Emptied

theorem Deed.capacity (deed : Deed a b c) : c.pool.capacity = b.pool.capacity := by
  cases deed <;> rfl

theorem Deed.closed (deed : Deed a b c) (closed : b.pool.closed = true) : c.pool.closed = true := by
  cases deed with
  | close free => rfl
  | _ => exact closed

theorem Deed.completed_le (deed : Deed a b c) : b.pool.stats.completed ≤ c.pool.stats.completed := by
  cases deed with
  | finish n k outcome runs =>
    rcases outcome with rfl | rfl
    · exact Nat.le_succ _
    · exact le_rfl
  | _ => exact le_rfl

end EventDispatch.Inventory
