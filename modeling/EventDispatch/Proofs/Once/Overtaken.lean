import EventDispatch.Proofs.Once.AtMostOnce
import EventDispatch.Proofs.Once.Swept

namespace EventDispatch

variable {h : Host} {α : Type}

/-- Some delivery found the entry spent while another held the claim on it. -/
def Overtaken (e : Entry h) : List (Actor × Occurrence h) → Prop
  | [] => False
  | (a, o) :: earlier => Overtaken e earlier ∨
    e.id ∈ o.foundSpent ∧ ∃ a', a' ≠ a ∧ ((Ledger.of earlier).stand a').phase = .holds e

theorem Overtaken.found {e : Entry h} {history : List (Actor × Occurrence h)}
    (overtaken : Overtaken e history) : e.id ∈ (Ledger.of history).foundSpent := by
  induction history with
  | nil => exact overtaken.elim
  | cons x earlier ih =>
    apply List.mem_append.2
    rcases overtaken with before | ⟨now, -⟩
    · exact .inr (ih before)
    · exact .inl now

namespace Course

variable {app : Application h} {s : Course h α} {a : Actor} {m : Machine h α} {o : Occurrence h}

/-- Whether a thread is inside a delivery. A panic ends all deliveries of its thread. -/
def Delivering (s : Course h α) (a : Actor) : Prop :=
  0 < (s.ledger.stand a).depth ∧ ∃ r, s.machine.running? a = some r ∧ ¬r.program.IsOver

def Quiet (s : Course h α) : Prop := ∀ a, ¬s.Delivering a

theorem Reachable.orderly (reached : s.Reachable app) : s.Orderly :=
  (reached.orderly_induct (I := fun _ => True) (fun _ _ _ _ => trivial) (fun _ _ _ _ _ _ _ => trivial)
    fun _ _ _ => trivial).1

theorem Reachable.swept (reached : s.Reachable app) : s.account.Swept :=
  (reached.account_induct (I := fun b => b.Filed ∧ b.Swept) ⟨.empty, .empty⟩
    fun _ _ _ deed ⟨filed, swept⟩ => ⟨filed.deed deed, swept.deed filed deed⟩).2

/-- What a delivery finds spent is claimed at that moment, and not by the delivery itself. -/
theorem claimed_of_found (orderly : s.Orderly) (turned : Machine.Turned app s.machine a m o) {i : Nat}
    (found : i ∈ o.foundSpent) : i ∈ s.world.registry.claimed ∧ s.account.phase a = .free := by
  cases turned with
  | @performed β t o next before after world =>
    have may := ((orderly a).1 _ before).1
    cases o with
    | spent es =>
      obtain ⟨e, he, rfl⟩ := List.mem_map.1 found
      have spent := (List.mem_filter.1 he).2
      rw [Registry.isSpent, Bool.and_eq_true, List.contains_iff_mem] at spent
      exact ⟨spent.2, may.1⟩
    | _ => cases found
  | _ => cases found

/-- An entry that was found spent was run by then, or is run since, or was overtaken. -/
theorem Reachable.ran_or_overtaken (reached : s.Reachable app) :
    ∀ x ∈ s.ledger.subscribed, x.2.id ∈ s.ledger.foundSpent →
      x.2.id ∈ s.ledger.ran ∨ Overtaken x.2 s.history := by
  refine (reached.orderly_induct (I := fun s => (s.account.Filed ∧ s.account.Claimed ∧
    s.account.Swept) ∧ ∀ x ∈ s.ledger.subscribed, x.2.id ∈ s.ledger.foundSpent →
      x.2.id ∈ s.ledger.ran ∨ Overtaken x.2 s.history) ?_ ?_ ?_).2.2
  · intro c publisher host scripts
    exact ⟨⟨.empty, .empty, .empty⟩, fun x hx => by cases hx⟩
  · rintro s a m o orderly turned ⟨⟨filed, claimed, swept⟩, before⟩
    have deed := deed_of_turned orderly turned
    have filed' := filed.deed deed
    refine ⟨⟨filed', claimed.deed filed deed, swept.deed filed deed⟩, fun x hx found => ?_⟩
    rcases List.mem_append.1 found with now | found
    · obtain ⟨mem, free⟩ := claimed_of_found orderly turned now
      rcases claimed.reason _ mem with ⟨a', e, hold, id⟩ | ran
      · -- The holder's entry is the one that was found, since ids name entries.
        obtain ⟨-, name, he⟩ := claimed.known a' e hold
        cases filed'.eq_of_id (Ledger.subscribed_note a o he) hx id
        refine .inr (.inr ⟨now, a', ?_, hold⟩)
        rintro rfl
        rw [free] at hold
        cases hold
      · exact .inl (Ledger.ran_note a o ran)
    · obtain ⟨y, hy, id⟩ := swept.found_known _ found
      cases filed'.eq_of_id (Ledger.subscribed_note a o hy) hx id
      exact (before x hy found).imp (fun ran => Ledger.ran_note a o ran) .inl
  · intro s pool holds
    exact holds

instance {β : Type} : DecidablePred (Program.IsOver (h := h) (α := β))
  | .done _ => isTrue trivial
  | .panic _ => isTrue trivial
  | .perform _ _ => isFalse id
  | .call _ _ => isFalse id

/-- Callers that are finished, no errands and no worker with a job. -/
theorem quiet_of_over (callers : ∀ c ∈ s.machine.callers, c.2.IsOver)
    (errands : s.machine.errands.isEmpty) (workers : ∀ w ∈ s.machine.workers, w.isNone) :
    s.Quiet := by
  rintro a ⟨-, r, running, busy⟩
  cases a with
  | caller n =>
    obtain ⟨c, hc, rfl⟩ := Option.map_eq_some_iff.1 running
    exact busy (callers c (List.mem_of_getElem? hc))
  | errand n => simp [Machine.running?, List.isEmpty_iff.1 errands] at running
  | worker n =>
    obtain ⟨p, hp, -⟩ := Option.map_eq_some_iff.1 running
    have hw := Option.join_eq_some_iff.1 hp
    cases workers _ (List.mem_of_getElem? hw)

theorem not_clearing_of_quiet (reached : s.Reachable app) (quiet : s.Quiet) (ids : List Nat) :
    s.account.phase a ≠ .clearing ids := by
  intro clearing
  apply quiet a
  refine ⟨reached.swept.inside a ids clearing, ?_⟩
  cases running : s.machine.running? a with
  | none =>
    have rest := (reached.orderly a).2 running
    rw [Account.phase, rest] at clearing
    cases clearing
  | some r =>
    refine ⟨r, rfl, fun finished => ?_⟩
    have free := Program.free_of_over ((reached.orderly a).1 r running) finished
    cases clearing.symm.trans free

/-- When no delivery is in progress, an entry whose subscription was not given up and whose listener
never ran is still registered, unless a delivery found it spent while another held the claim on it. -/
theorem unrun_registered_iff (reached : s.Reachable app) (quiet : s.Quiet) {name : String}
    {e : Entry h} (subscribed : (name, e) ∈ s.ledger.subscribed)
    (active : e.id ∉ s.ledger.unsubscribed) (uninvoked : e.id ∉ s.ledger.invoked)
    (unaccepted : e.id ∉ s.ledger.accepted) :
    e ∈ s.world.registry.entries name ↔ ¬Overtaken e s.history := by
  constructor
  · -- What was found spent is out of the registry once nobody has it to take out.
    intro here overtaken
    rcases reached.swept.swept (name, e) subscribed overtaken.found with gone | ⟨a, ids, clearing, -⟩
    · exact gone here
    · exact not_clearing_of_quiet reached quiet ids clearing
  · intro never
    rcases reached.swept.kept (name, e) subscribed with here | given | found
    · exact here
    · exact absurd given active
    · rcases reached.ran_or_overtaken (name, e) subscribed found with ran | overtaken
      · exact absurd (Ledger.mem_ran.1 ran) (not_or.2 ⟨uninvoked, unaccepted⟩)
      · exact absurd overtaken never

def closer : Thread × Script silentHost Unit := (.main, Script.ask .shutdown)

def refused : Course silentHost Unit :=
  run silent default none () [subscriber, closer, sender, sender]
    (turns 0 3 ++ turns 1 5 ++ turns 2 9 ++ turns 3 9)

theorem refused_listener_registered : silentEntry ∈ refused.world.registry.entries "n" := by
  have reached : refused.Reachable silent := reachable_run ..
  have quiet : refused.Quiet :=
    quiet_of_over (by decide +kernel) (by decide +kernel) (by decide +kernel)
  have unfound : 1 ∉ refused.ledger.foundSpent := by decide +kernel
  apply (unrun_registered_iff reached quiet (by decide +kernel) (by decide +kernel)
    (by decide +kernel) (by decide +kernel)).2
  exact mt Overtaken.found unfound

/-- The second delivery skips the entry while the first holds the claim on it, finds it spent, and takes
it out after the first was refused and gave the claim back. -/
def race : Course silentHost Unit :=
  run silent default none () [subscriber, closer, sender, sender]
    (turns 0 3 ++ turns 1 5 ++ turns 2 3 ++ turns 3 4 ++ turns 2 6 ++ turns 3 1)

theorem unrun_listener_lost :
    race.Reachable silent ∧ race.Quiet ∧
      ("n", silentEntry) ∈ race.ledger.subscribed ∧ silentEntry.options.once ∧
      silentEntry.id ∉ race.ledger.unsubscribed ∧ silentEntry.id ∉ race.ledger.invoked ∧
      silentEntry.id ∉ race.ledger.accepted ∧
      silentEntry ∉ race.world.registry.entries "n" := by
  refine ⟨reachable_run .., ?_, ?_, rfl, ?_, ?_, ?_, ?_⟩
  · exact quiet_of_over (by decide +kernel) (by decide +kernel) (by decide +kernel)
  · decide +kernel
  · decide +kernel
  · decide +kernel
  · decide +kernel
  · decide +kernel

end Course
end EventDispatch
