import EventDispatch.Proofs.Once.Frames
import EventDispatch.Proofs.Once.Overtaken

namespace EventDispatch

variable {h : Host} {α : Type}

/-- Steps that claim nothing and give nothing back leave the claims as they are. -/
theorem World.answer_aside (w : World h) (t : Thread) {o : Op h} (aside : o.IsAside) :
    (w.answer t o).2.registry.claimed = w.registry.claimed := by
  cases o with
  | host o => exact (w.answerHost_plain t o).2.2
  | publish ctx m => exact congrArg Registry.claimed (w.publish_plain t ctx m).2
  | _ => first | exact aside.elim | rfl

/-- A claim is noted when it is granted on a `once` entry. -/
theorem Registry.claimed_claim (r : Registry h) (e : Entry h) : (r.claim e).2.claimed =
    if e.options.once && (r.claim e).1 then e.id :: r.claimed else r.claimed := by
  by_cases once : e.options.once
  · by_cases claimed : r.claimed.contains e.id
    · simp only [claim, once, claimed, Bool.not_true, Bool.false_eq_true, if_false, if_true,
        Bool.and_false]
    · simp only [claim, once, claimed, Bool.not_true, Bool.false_eq_true, if_false, if_true,
        Bool.and_self]
  · simp only [claim, once, Bool.not_false, if_true, Bool.false_and, Bool.false_eq_true, if_false]

theorem Registry.claimed_release (r : Registry h) (e : Entry h) : (r.release e).claimed =
    if e.options.once then r.claimed.filter (· != e.id) else r.claimed := by
  simp only [release]
  split <;> rfl

namespace Frame

def debts (fs : List (Frame h)) : List Nat := fs.flatMap (·.owed)

theorem mem_debts_onTop {change : List Nat → List Nat} {fs : List (Frame h)} {i : Nat}
    (kept : ∀ is : List Nat, i ∈ is → i ∈ change is) (hi : i ∈ debts fs) : i ∈ debts (onTop change fs) := by
  cases fs with
  | nil => exact hi
  | cons f rest =>
    rcases List.mem_append.1 hi with top | below
    · exact List.mem_append_left _ (kept _ top)
    · exact List.mem_append_right _ below

theorem mem_debts_of_top {change : List Nat → List Nat} {fs : List (Frame h)} {es : List (Entry h)}
    {i : Nat} (inside : (shape fs).head? = some es) (hi : ∀ is : List Nat, i ∈ change is) :
    i ∈ debts (onTop change fs) := by
  cases fs with
  | nil => cases inside
  | cons f rest => exact List.mem_append_left _ (hi f.owed)

def Listed (fs : List (Frame h)) : Prop :=
  ∀ f ∈ fs, ∀ i ∈ f.owed, ∃ e ∈ f.entries, e.options.once ∧ e.id = i

theorem Listed.onTop {change : List Nat → List Nat} {fs : List (Frame h)} (listed : Listed fs)
    (sound : ∀ es, (shape fs).head? = some es → ∀ is : List Nat, ∀ i ∈ change is,
      i ∈ is ∨ ∃ e ∈ es, e.options.once ∧ e.id = i) : Listed (onTop change fs) := by
  cases fs with
  | nil => exact listed
  | cons f rest =>
    intro g hg i hi
    rcases List.mem_cons.1 hg with rfl | below
    · rcases sound f.entries rfl f.owed i hi with before | new
      · exact listed f List.mem_cons_self i before
      · exact new
    · exact listed g (List.mem_cons_of_mem _ below) i hi

theorem Listed.after {fs : List (Frame h)} (listed : Listed fs) {o : Op h} (a : o.Answer)
    (may : MayPerform fs o) : Listed (after fs (.performed o a)) := by
  by_cases aside : o.IsAside
  · rw [after_aside fs aside]
    exact listed
  cases o with
  | snapshot name =>
    intro f hf
    rcases List.mem_cons.1 hf with rfl | below
    · exact nofun
    · exact listed f below
  | claim e =>
    obtain ⟨es, inside, he⟩ := may
    simp only [Frame.after]
    split
    · next granted =>
      have once : e.options.once := (Bool.and_eq_true_iff.1 granted).1
      apply listed.onTop
      intro es' inside' is i hi
      cases inside.symm.trans inside'
      rcases List.mem_cons.1 hi with rfl | before
      · exact .inr ⟨e, he, once, rfl⟩
      · exact .inl before
    · exact listed
  | release e =>
    simp only [Frame.after]
    split
    · apply listed.onTop
      intro es _ is i hi
      exact .inl (List.mem_of_mem_filter hi)
    · exact listed
  | spent es => exact fun f hf => listed f (List.mem_of_mem_tail hf)
  | _ => exact absurd trivial aside

/-- At its end a delivery finds everything that it owes, and what the others owe stays owed. -/
theorem found_of_top {fs : List (Frame h)} {es : List (Entry h)} {r : Registry h} {i : Nat}
    (listed : Listed fs) (inside : (shape fs).head? = some es) (claimed : i ∈ r.claimed)
    (owes : i ∈ debts fs) : i ∈ r.spent es ∨ i ∈ debts fs.tail := by
  cases fs with
  | nil => cases inside
  | cons f rest =>
    cases inside
    rcases List.mem_append.1 owes with top | below
    · obtain ⟨e, he, once, rfl⟩ := listed f List.mem_cons_self i top
      have spent : r.isSpent e = true := by
        rw [Registry.isSpent, once, List.contains_iff_mem.2 claimed, Bool.and_self]
      exact .inl (List.mem_map_of_mem (List.mem_filter.2 ⟨he, spent⟩))
    · exact .inr below

end Frame

/-- The ids that were owed by a thread when it ended. A thread whose work is done owes nothing, so what
ended this thread was a panic. -/
def abandoned : List (Actor × Occurrence h) → List Nat
  | [] => []
  | (a, .ended) :: earlier => Frame.debts (Course.standing Frame.nesting earlier a) ++ abandoned earlier
  | _ :: earlier => abandoned earlier

namespace Course

open EventDispatch.Frame

variable {app : Application h} {s : Course h α} {a : Actor} {m : Machine h α} {o : Occurrence h}

/-- The deliveries that a thread is in, the innermost first. -/
def frames (s : Course h α) : Actor → List (Frame h) := standing nesting s.history

/-- A claim is one of a delivery that goes on, or one that a delivery found at its end, or one that a
delivery left behind. -/
structure Owing (s : Course h α) : Prop where
  listed : ∀ a, Listed (s.frames a)
  claimed : ∀ i ∈ s.world.registry.claimed,
    i ∈ s.ledger.foundSpent ∨ (∃ a, i ∈ debts (s.frames a)) ∨ i ∈ abandoned s.history

theorem frames_self (s : Course h α) (m : Machine h α) (a : Actor) (o : Occurrence h) :
    frames ⟨m, (a, o) :: s.history⟩ a = Frame.after (s.frames a) o :=
  Function.update_self ..

theorem frames_other (s : Course h α) (m : Machine h α) {a a' : Actor} (o : Occurrence h)
    (ne : a' ≠ a) : frames ⟨m, (a, o) :: s.history⟩ a' = s.frames a' :=
  Function.update_of_ne ne ..

theorem abandoned_subset (a : Actor) (o : Occurrence h) (earlier : List (Actor × Occurrence h)) :
    abandoned earlier ⊆ abandoned ((a, o) :: earlier) := by
  cases o with
  | ended => exact List.subset_append_right _ _
  | _ => exact List.Subset.refl _

/-- A turn accounts for every claim when its own thread does so. -/
theorem Owing.turn (hs : s.Owing) (listed : Listed (Frame.after (s.frames a) o))
    (new : ∀ i ∈ m.world.registry.claimed,
      i ∈ s.world.registry.claimed ∨ i ∈ debts (Frame.after (s.frames a) o))
    (kept : ∀ i ∈ m.world.registry.claimed, i ∈ debts (s.frames a) →
      i ∈ o.foundSpent ∨ i ∈ debts (Frame.after (s.frames a) o) ∨
        i ∈ abandoned ((a, o) :: s.history)) :
    Owing ⟨m, (a, o) :: s.history⟩ := by
  constructor
  · intro a'
    by_cases same : a' = a
    · subst same
      rw [frames_self]
      exact listed
    · rw [frames_other s m o same]
      exact hs.listed a'
  · intro i hi
    have own : i ∈ debts (Frame.after (s.frames a) o) →
        ∃ a', i ∈ debts (frames ⟨m, (a, o) :: s.history⟩ a') := by
      intro owes
      refine ⟨a, ?_⟩
      rwa [frames_self]
    -- A claim that was there before is accounted for by the thread that owed it, which may be this one.
    rcases new i hi with before | owes
    · rcases hs.claimed i before with found | ⟨a', owes⟩ | left
      · exact .inl (List.mem_append_right _ found)
      · by_cases same : a' = a
        · subst same
          rcases kept i hi owes with found | still | left
          · exact .inl (List.mem_append_left _ found)
          · exact .inr (.inl (own still))
          · exact .inr (.inr left)
        · refine .inr (.inl ⟨a', ?_⟩)
          rwa [frames_other s m o same]
      · exact .inr (.inr (abandoned_subset a o s.history left))
    · exact .inr (.inl (own owes))

/-- A turn that makes no claim. -/
theorem Owing.fewer (hs : s.Owing) (fewer : m.world.registry.claimed ⊆ s.world.registry.claimed)
    (listed : Listed (Frame.after (s.frames a) o))
    (kept : ∀ i ∈ m.world.registry.claimed, i ∈ debts (s.frames a) →
      i ∈ o.foundSpent ∨ i ∈ debts (Frame.after (s.frames a) o) ∨
        i ∈ abandoned ((a, o) :: s.history)) :
    Owing ⟨m, (a, o) :: s.history⟩ :=
  hs.turn listed (fun _ hi => .inl (fewer hi)) kept

/-- A turn that changes neither the claims nor the deliveries of its thread. -/
theorem Owing.still (hs : s.Owing) (claimed : m.world.registry.claimed = s.world.registry.claimed)
    (same : Frame.after (s.frames a) o = s.frames a) : Owing ⟨m, (a, o) :: s.history⟩ := by
  apply hs.fewer (fun _ hi => claimed ▸ hi)
  · rw [same]
    exact hs.listed a
  · intro i hi owes
    rw [same]
    exact .inr (.inl owes)

/-- What is claimed is owed by the innermost delivery. -/
theorem Owing.claim (hs : s.Owing) {e : Entry h} {granted : Bool} {es : List (Entry h)}
    (inside : (shape (s.frames a)).head? = some es)
    (listed : Listed (Frame.after (s.frames a) (.performed (.claim e) granted)))
    (claimed : m.world.registry.claimed = if e.options.once && granted
      then e.id :: s.world.registry.claimed else s.world.registry.claimed) :
    Owing ⟨m, (a, .performed (.claim e) granted) :: s.history⟩ := by
  by_cases new : e.options.once && granted
  · rw [if_pos new] at claimed
    have after : Frame.after (s.frames a) (.performed (.claim e) granted) =
      onTop (e.id :: ·) (s.frames a) := if_pos new
    apply hs.turn listed
    · intro i hi
      rw [claimed] at hi
      rw [after]
      rcases List.mem_cons.1 hi with rfl | before
      · exact .inr (mem_debts_of_top inside fun _ => List.mem_cons_self)
      · exact .inl before
    · intro i hi owes
      rw [after]
      exact .inr (.inl (mem_debts_onTop (fun _ => List.mem_cons_of_mem _) owes))
  · rw [if_neg new] at claimed
    exact hs.still claimed (if_neg new)

theorem Owing.release (hs : s.Owing) {e : Entry h}
    (listed : Listed (Frame.after (s.frames a) (.performed (.release e) ())))
    (claimed : m.world.registry.claimed = if e.options.once
      then s.world.registry.claimed.filter (· != e.id) else s.world.registry.claimed) :
    Owing ⟨m, (a, .performed (.release e) ()) :: s.history⟩ := by
  by_cases once : e.options.once
  · rw [if_pos once] at claimed
    have after : Frame.after (s.frames a) (.performed (.release e) ()) =
      onTop (·.filter (· != e.id)) (s.frames a) := if_pos once
    apply hs.fewer _ listed
    · intro i hi owes
      rw [claimed] at hi
      have other : (i != e.id) = true := (List.mem_filter.1 hi).2
      refine .inr (.inl ?_)
      rw [after]
      exact mem_debts_onTop (fun is mem => List.mem_filter.2 ⟨mem, other⟩) owes
    · rw [claimed]
      exact List.filter_subset_self _
  · rw [if_neg once] at claimed
    exact hs.still claimed (if_neg once)

theorem Owing.performed (hs : s.Owing) {t : Thread} {o : Op h}
    (world : m.world = (s.world.answer t o).2) (may : MayPerform (s.frames a) o) :
    Owing ⟨m, (a, .performed o (s.world.answer t o).1) :: s.history⟩ := by
  have answered : m.world.registry.claimed = (s.world.answer t o).2.registry.claimed :=
    congrArg (·.registry.claimed) world
  by_cases aside : o.IsAside
  · exact hs.still (answered.trans (s.world.answer_aside t aside)) (after_aside _ aside _)
  have listed := (hs.listed a).after (s.world.answer t o).1 may
  cases o with
  | snapshot name =>
    apply hs.fewer (fun _ hi => answered ▸ hi) listed
    intro i hi owes
    exact .inr (.inl owes)
  | claim e =>
    obtain ⟨es, inside, -⟩ := may
    exact hs.claim inside listed (answered.trans (s.world.registry.claimed_claim e))
  | release e => exact hs.release listed (answered.trans (s.world.registry.claimed_release e))
  | spent es =>
    apply hs.fewer (fun _ hi => answered ▸ hi) listed
    intro i hi owes
    rw [answered] at hi
    exact (found_of_top (hs.listed a) may hi owes).imp_right .inl
  | _ => exact absurd trivial aside

theorem Owing.ended (hs : s.Owing) (claimed : m.world.registry.claimed = s.world.registry.claimed) :
    Owing ⟨m, (a, .ended) :: s.history⟩ := by
  have none : Listed (Frame.after (s.frames a) .ended) := fun _ hf => absurd hf List.not_mem_nil
  apply hs.fewer (fun _ hi => claimed ▸ hi) none
  intro i _ owes
  exact .inr (.inr (List.mem_append_left _ owes))

theorem Owing.turned (hs : s.Owing) (keeps : s.machine.Keeps nesting s.frames)
    (turned : Machine.Turned app s.machine a m o) : Owing ⟨m, (a, o) :: s.history⟩ := by
  cases turned with
  | performed before after world ready => exact hs.performed world ((keeps a).1 _ before).1
  | called before after world => exact hs.still (congrArg (·.registry.claimed) world) rfl
  | took actor before take after world =>
    exact hs.still (congrArg (·.registry.claimed) world) rfl
  | ended before finished after world =>
    obtain ⟨pool, trail, returned, after⟩ := Machine.ended_concerns world
    exact hs.ended (congrArg (·.registry.claimed) after)

theorem Reachable.owing (reached : s.Reachable app) :
    s.machine.Keeps nesting s.frames ∧ s.Owing := by
  apply reached.keeps_induct (nesting_upheld app) (fun _ _ _ => trivial)
  · intro c publisher host scripts
    exact ⟨fun _ => nofun, nofun⟩
  · intro s a m o keeps turned owing
    exact owing.turned keeps turned
  · intro s pool owing
    exact ⟨owing.listed, owing.claimed⟩

/-- A panic cut a delivery short that had claimed the entry of this id: its thread is at the panic, or
has ended there. -/
def CutShort (s : Course h α) (i : Nat) : Prop :=
  (∃ a r, s.machine.running? a = some r ∧ (∃ p, r.program = .panic p) ∧ i ∈ debts (s.frames a)) ∨
    i ∈ abandoned s.history

end Course

def Phase.isClearing : Phase h → Bool
  | .clearing _ => true
  | _ => false

namespace Standing

open EventDispatch.Frame (onTop shape shape_onTop)

/-- A thread is counted as in a delivery as long as it has a frame for it, and while it takes out what
the delivery found spent. -/
structure Balanced (s : Standing h) (fs : List (Frame h)) : Prop where
  inside : fs.length ≤ s.depth
  clearing : s.phase.isClearing = true → fs.length < s.depth

variable {s : Standing h} {fs gs : List (Frame h)}

theorem Balanced.move (balanced : s.Balanced fs) (length : gs.length = fs.length) {p : Phase h}
    (other : p.isClearing = false) : (s.at' p).Balanced gs where
  inside := by
    rw [length]
    exact balanced.inside
  clearing clearing := absurd clearing (Bool.eq_false_iff.1 other)

theorem Balanced.of_free (free : s.phase = .free) (inside : fs.length ≤ s.depth) : s.Balanced fs where
  inside := inside
  clearing clearing := by
    rw [free] at clearing
    cases clearing

theorem Balanced.leave (outside : fs.length < s.depth) : s.leave.Balanced fs :=
  .of_free rfl (Nat.le_sub_one_of_lt outside)

theorem length_onTop (change : List Nat → List Nat) (fs : List (Frame h)) :
    (onTop change fs).length = fs.length := by
  have same := congrArg List.length (shape_onTop change fs)
  rwa [shape, shape, List.length_map, List.length_map] at same

theorem Balanced.after (balanced : s.Balanced fs) {o : Occurrence h}
    (inside : ∀ es ids, o = .performed (.spent es) ids → fs ≠ []) :
    (s.after o).Balanced (Frame.after fs o) := by
  cases o with
  | performed o x =>
    cases o with
    | takeId => exact balanced.move rfl rfl
    | insert name e => exact balanced.move rfl rfl
    | retire id =>
      simp only [Standing.after]
      split
      · exact balanced.move rfl rfl
      · exact balanced
    | removeAll name ids =>
      simp only [Standing.after]
      split
      · next clearing =>
        apply Balanced.leave
        apply balanced.clearing
        rw [clearing]
        rfl
      · exact balanced.move rfl rfl
    | snapshot name =>
      exact ⟨Nat.succ_le_succ balanced.inside,
        fun clearing => Nat.succ_lt_succ (balanced.clearing clearing)⟩
    | claim e =>
      simp only [Standing.after, Frame.after]
      split
      · exact balanced.move (length_onTop _ _) rfl
      · exact balanced
    | release e =>
      simp only [Standing.after, Frame.after]
      split
      · exact balanced.move (length_onTop _ _) rfl
      · exact balanced.move rfl rfl
    | spent es =>
      -- The frame goes now, and the count only when what was found is taken out.
      have outside : fs.tail.length < s.depth := by
        have positive := List.length_pos_iff.2 (inside es x rfl)
        have most := balanced.inside
        rw [List.length_tail]
        omega
      simp only [Standing.after, Frame.after]
      split
      · exact .leave outside
      · exact ⟨Nat.le_of_lt outside, fun _ => outside⟩
    | enqueue job =>
      cases job with
      | listener e ctx event =>
        cases x with
        | ok u => exact balanced.move rfl rfl
        | error e => exact balanced
      | _ => exact balanced
    | _ => exact balanced
  | called c =>
    cases c with
    | listener e ctx event => exact balanced.move rfl rfl
    | interceptor i next ctx event => exact balanced
  | took job =>
    cases job with
    | listener e ctx event => exact balanced.move rfl rfl
    | _ => exact balanced
  | ended => exact .of_free rfl (Nat.le_refl 0)

end Standing

namespace Course

open EventDispatch.Frame

variable {app : Application h} {s : Course h α} {a : Actor}

theorem Reachable.balanced (reached : s.Reachable app) (a : Actor) :
    (s.ledger.stand a).Balanced (s.frames a) := by
  refine (reached.keeps_induct (I := fun s => ∀ a, (s.ledger.stand a).Balanced (s.frames a))
    (nesting_upheld app) (fun _ _ _ => trivial) ?_ ?_ ?_).2 a
  · intro c publisher host scripts a
    exact .of_free rfl (Nat.le_refl 0)
  · intro s a m o keeps turned balanced a'
    by_cases same : a' = a
    · subst same
      have stand : (ledger ⟨m, (a', o) :: s.history⟩).stand a' = (s.ledger.stand a').after o :=
        Function.update_self ..
      rw [frames_self, stand]
      apply (balanced a').after
      rintro es ids rfl none
      cases turned with
      | performed before after world ready =>
        have may : MayPerform (s.frames a') (.spent es) := ((keeps a').1 _ before).1
        rw [none] at may
        cases may
    · have stand : (ledger ⟨m, (a, o) :: s.history⟩).stand a' = s.ledger.stand a' :=
        Function.update_of_ne same ..
      rw [frames_other s m o same, stand]
      exact balanced a'
  · intro s pool balanced
    exact balanced

/-- Whose work is done is in no delivery any more. -/
theorem frames_of_done (reached : s.Reachable app) {r : Running h}
    (running : s.machine.running? a = some r) {x : r.Result} (done : r.program = .done x) :
    s.frames a = [] := by
  have kept := (reached.owing.1 a).1 r running
  rw [done] at kept
  have same : shape (s.frames a) = [] := kept
  exact List.map_eq_nil_iff.1 same

/-- In a quiet state whoever still owes something is at a panic. -/
theorem panicked_of_owing (reached : s.Reachable app) (quiet : s.Quiet) {i : Nat}
    (owes : i ∈ debts (s.frames a)) :
    ∃ r, s.machine.running? a = some r ∧ ∃ p, r.program = .panic p := by
  have inside : s.frames a ≠ [] := List.ne_nil_of_mem (List.mem_flatMap.1 owes).choose_spec.1
  cases running : s.machine.running? a with
  | none => exact absurd ((reached.owing.1 a).2 running) inside
  | some r =>
    have deep : 0 < (s.ledger.stand a).depth := by
      have most := (reached.balanced a).inside
      have positive := List.length_pos_iff.2 inside
      omega
    have finished : r.program.IsOver := by
      apply Decidable.byContradiction
      intro busy
      exact quiet a ⟨deep, r, running, busy⟩
    refine ⟨r, rfl, ?_⟩
    cases program : r.program with
    | done x => exact absurd (frames_of_done reached running program) inside
    | panic p => exact ⟨p, rfl⟩
    | perform o next =>
      rw [program] at finished
      exact finished.elim
    | call c next =>
      rw [program] at finished
      exact finished.elim

/-- The entry that has an id is the one that was registered with it. -/
theorem contains_iff (reached : s.Reachable app) {name : String} {e : Entry h}
    (subscribed : (name, e) ∈ s.ledger.subscribed) :
    s.world.registry.contains name e.id = true ↔ e ∈ s.world.registry.entries name := by
  simp only [Registry.contains, List.any_eq_true, beq_iff_eq]
  constructor
  · rintro ⟨x, hx, id⟩
    cases reached.filed.eq_of_id (reached.filed.registered name x hx) subscribed id
    exact hx
  · intro he
    exact ⟨e, he, rfl⟩

/-- When no delivery is in progress, a `once` entry whose listener was called, or accepted by the pool,
is registered only if a panic cut a delivery short that had claimed it, and no other delivery has found
it spent since. Then it is registered indeed, unless it was given up. Apart from that its subscription
is inactive, and it is not counted. -/
theorem ran_gone_unless_cut (reached : s.Reachable app) (quiet : s.Quiet) {name : String}
    {e : Entry h} (subscribed : (name, e) ∈ s.ledger.subscribed) (once : e.options.once)
    (ran : e.id ∈ s.ledger.invoked ∨ e.id ∈ s.ledger.accepted) :
    (s.world.registry.contains name e.id = true →
      s.CutShort e.id ∧ e.id ∉ s.ledger.foundSpent) ∧
    (e.id ∉ s.ledger.foundSpent → e.id ∉ s.ledger.unsubscribed →
      s.world.registry.contains name e.id = true) ∧
    (s.world.registry.contains name e.id = true ↔ e ∈ s.world.registry.entries name) ∧
    (s.world.registry.contains name e.id = false → s.world.registry.count name =
      (s.world.registry.entries name).countP (·.id != e.id)) := by
  have stored := contains_iff reached subscribed
  refine ⟨?_, ?_, stored, ?_⟩
  · intro here
    have unfound : e.id ∉ s.ledger.foundSpent := by
      intro found
      rcases reached.swept.swept (name, e) subscribed found with gone | ⟨a, ids, clearing, -⟩
      · exact gone (stored.1 here)
      · exact not_clearing_of_quiet reached quiet ids clearing
    have claimed : e.id ∈ s.world.registry.claimed :=
      reached.claimed.ran_claimed (name, e) subscribed once (Ledger.mem_ran.2 ran)
    refine ⟨?_, unfound⟩
    -- Whoever still owes the claim while no delivery is in progress has panicked.
    rcases reached.owing.2.claimed e.id claimed with found | ⟨a, owes⟩ | left
    · exact absurd found unfound
    · obtain ⟨r, running, panicked⟩ := panicked_of_owing reached quiet owes
      exact .inl ⟨a, r, running, panicked, owes⟩
    · exact .inr left
  · intro unfound active
    rcases reached.swept.kept (name, e) subscribed with here | given | found
    · exact stored.2 here
    · exact absurd given active
    · exact absurd found unfound
  · intro absent
    rw [Registry.count, List.countP_eq_length.2]
    intro x hx
    have none := List.any_eq_false.1 absent x hx
    simpa using none

theorem accepted_listener_gone :
    1 ∈ retried.ledger.accepted ∧ retried.world.registry.contains "n" 1 = false := by
  have reached : retried.Reachable silent := reachable_run ..
  have quiet : retried.Quiet :=
    quiet_of_over (by decide +kernel) (by decide +kernel) (by decide +kernel)
  have subscribed : ("n", silentEntry) ∈ retried.ledger.subscribed := by decide +kernel
  have accepted : 1 ∈ retried.ledger.accepted := by decide +kernel
  have found : 1 ∈ retried.ledger.foundSpent := by decide +kernel
  refine ⟨accepted, Bool.eq_false_iff.2 fun here => ?_⟩
  exact ((ran_gone_unless_cut reached quiet subscribed rfl (.inr accepted)).1 here).2 found

abbrev brittleHost : Host := ⟨Unit, Unit, Empty, Unit, Unit, Empty⟩

def brittle : Application brittleHost where
  listen _ _ _ := return .ok ()
  intercept _ ctx event := return .proceed ctx event fun _ => .panic .value
  run e := nomatch e

def brittleEntry : Entry brittleHost := ⟨1, .plain (), ⟨0, false, true⟩⟩

def brittleSender : Thread × Script brittleHost Unit :=
  (.main, do
    Script.act (.intercept (.custom ()))
    let _ ← Script.ask (.subscribe "n" brittleEntry.handler brittleEntry.options)
    let _ ← Script.ask (.dispatch .background (some (.raw ⟨"n", ⟨"null"⟩, .epoch, none⟩))
      { DispatchOptions.empty with asynchronous := true }))

/-- The worker catches the panic, and nobody takes the entry out. -/
def cut : Course brittleHost Unit :=
  run brittle default none () [brittleSender] (turns 0 8 ++ List.replicate 6 (.turn (.worker 0)))

theorem cut_leaves_spent :
    cut.Reachable brittle ∧ cut.Quiet ∧ ("n", brittleEntry) ∈ cut.ledger.subscribed ∧
      brittleEntry.options.once ∧ brittleEntry.id ∈ cut.ledger.invoked ∧
      brittleEntry.id ∉ cut.ledger.unsubscribed ∧
      brittleEntry ∈ cut.world.registry.entries "n" ∧
      cut.world.registry.contains "n" brittleEntry.id = true ∧
      cut.world.registry.count "n" = 1 := by
  have quiet : cut.Quiet :=
    quiet_of_over (by decide +kernel) (by decide +kernel) (by decide +kernel)
  refine ⟨reachable_run .., quiet, ?_, rfl, ?_, ?_, ?_, ?_, ?_⟩
  · decide +kernel
  · decide +kernel
  · decide +kernel
  · decide +kernel
  · decide +kernel
  · decide +kernel

end Course
end EventDispatch
