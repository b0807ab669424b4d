import EventDispatch.Proofs.Once.Filed

namespace EventDispatch.Account

variable {h : Host} {a : Actor} {b c : Account h} {s : Standing h}

structure Claimed (b : Account h) : Prop where
  known : ∀ a e, b.phase a = .holds e →
    e.options.once ∧ ∃ name, (name, e) ∈ b.ledger.subscribed
  claimed : ∀ a e, b.phase a = .holds e → e.id ∈ b.registry.claimed
  fresh : ∀ a e, b.phase a = .holds e → e.id ∉ b.ledger.ran
  apart : ∀ a a' e e', b.phase a = .holds e → b.phase a' = .holds e' → e.id = e'.id → a = a'
  reason : ∀ i ∈ b.registry.claimed,
    (∃ a e, b.phase a = .holds e ∧ e.id = i) ∨ i ∈ b.ledger.ran
  ran_known : ∀ i ∈ b.ledger.ran, ∃ x ∈ b.ledger.subscribed, x.2.id = i
  ran_claimed : ∀ x ∈ b.ledger.subscribed, x.2.options.once → x.2.id ∈ b.ledger.ran →
    x.2.id ∈ b.registry.claimed
  ran_once : ∀ x ∈ b.ledger.subscribed, x.2.options.once → b.ledger.ran.count x.2.id ≤ 1

namespace Claimed

theorem empty : Claimed (⟨.empty, .empty, 0⟩ : Account h) where
  known _ _ hold := by cases hold
  claimed _ _ hold := by cases hold
  fresh _ _ hold := by cases hold
  apart _ _ _ _ hold := by cases hold
  reason _ hi := by cases hi
  ran_known _ hi := by cases hi
  ran_claimed _ hx := by cases hx
  ran_once _ hx := by cases hx

/-- Turns in which no claim is made, given up or used. -/
theorem frame (hb : b.Claimed) (stand : c.stand = Function.update b.stand a s)
    (holds : ∀ e, s.phase = .holds e ↔ b.phase a = .holds e)
    (subscribed : c.ledger.subscribed = b.ledger.subscribed) (ran : c.ledger.ran = b.ledger.ran)
    (claimed : c.registry.claimed = b.registry.claimed) : c.Claimed := by
  have before : ∀ a' e, c.phase a' = .holds e ↔ b.phase a' = .holds e := fun a' e =>
    phase_iff stand (holds e) a'
  constructor
  case known => simpa only [before, subscribed] using hb.known
  case claimed => simpa only [before, claimed] using hb.claimed
  case fresh => simpa only [before, ran] using hb.fresh
  case apart => simpa only [before] using hb.apart
  case reason => simpa only [before, claimed, ran] using hb.reason
  case ran_known => simpa only [subscribed, ran] using hb.ran_known
  case ran_claimed => simpa only [subscribed, ran, claimed] using hb.ran_claimed
  case ran_once => simpa only [subscribed, ran] using hb.ran_once

theorem insert (hb : b.Claimed) {name : String} {e : Entry h}
    (new : ∀ x ∈ b.ledger.subscribed, x.2.id ≠ e.id)
    (stand : c.stand = Function.update b.stand a ((b.stand a).at' .free))
    (issued : b.phase a = .issued e.id)
    (subscribed : c.ledger.subscribed = (name, e) :: b.ledger.subscribed)
    (ran : c.ledger.ran = b.ledger.ran) (claimed : c.registry.claimed = b.registry.claimed) :
    c.Claimed := by
  have before : ∀ a' e', c.phase a' = .holds e' → b.phase a' = .holds e' := fun a' e' hold =>
    (phase_busy stand rfl hold nofun).2
  -- What ran was registered before, and this entry is new.
  have unrun : e.id ∉ b.ledger.ran := by
    intro hi
    obtain ⟨x, hx, id⟩ := hb.ran_known e.id hi
    exact new x hx id
  constructor
  case known =>
    intro a' e' hold
    obtain ⟨once, n, hx⟩ := hb.known a' e' (before a' e' hold)
    exact ⟨once, n, subscribed ▸ List.mem_cons_of_mem _ hx⟩
  case claimed =>
    intro a' e' hold
    rw [claimed]
    exact hb.claimed a' e' (before a' e' hold)
  case fresh =>
    intro a' e' hold
    rw [ran]
    exact hb.fresh a' e' (before a' e' hold)
  case apart =>
    intro a' a'' e' e'' hold hold'
    exact hb.apart a' a'' e' e'' (before a' e' hold) (before a'' e'' hold')
  case reason =>
    intro i hi
    rw [claimed] at hi
    rw [ran]
    exact (hb.reason i hi).imp_left fun ⟨a', e', hold, id⟩ =>
      ⟨a', e', phase_still stand issued nofun hold, id⟩
  case ran_known =>
    intro i hi
    obtain ⟨x, hx, id⟩ := hb.ran_known i (ran ▸ hi)
    exact ⟨x, subscribed ▸ List.mem_cons_of_mem _ hx, id⟩
  case ran_claimed =>
    intro x hx once hi
    rw [subscribed] at hx
    rw [ran] at hi
    rw [claimed]
    rcases List.mem_cons.1 hx with rfl | hx
    · exact absurd hi unrun
    · exact hb.ran_claimed x hx once hi
  case ran_once =>
    intro x hx once
    rw [subscribed] at hx
    rw [ran]
    rcases List.mem_cons.1 hx with rfl | hx
    · rw [List.count_eq_zero.2 unrun]
      exact Nat.zero_le 1
    · exact hb.ran_once x hx once

theorem claim (hb : b.Claimed) {e : Entry h} (once : e.options.once)
    (known : ∃ name, (name, e) ∈ b.ledger.subscribed) (unclaimed : e.id ∉ b.registry.claimed)
    (free : b.phase a = .free)
    (stand : c.stand = Function.update b.stand a ((b.stand a).at' (.holds e)))
    (subscribed : c.ledger.subscribed = b.ledger.subscribed) (ran : c.ledger.ran = b.ledger.ran)
    (claimed : c.registry.claimed = e.id :: b.registry.claimed) : c.Claimed := by
  have cases_of : ∀ a' e', c.phase a' = .holds e' →
      a' = a ∧ e' = e ∨ a' ≠ a ∧ b.phase a' = .holds e' := by
    intro a' e' hold
    rcases phase_cases stand hold with ⟨same, hold⟩ | other
    · cases hold
      exact .inl ⟨same, rfl⟩
    · exact .inr other
  have others : ∀ a' e', b.phase a' = .holds e' → e'.id ≠ e.id := fun a' e' hold id =>
    unclaimed (id ▸ hb.claimed a' e' hold)
  constructor
  case known =>
    intro a' e' hold
    rw [subscribed]
    rcases cases_of a' e' hold with ⟨-, rfl⟩ | ⟨-, hold⟩
    · exact ⟨once, known⟩
    · exact hb.known a' e' hold
  case claimed =>
    intro a' e' hold
    rw [claimed]
    rcases cases_of a' e' hold with ⟨-, rfl⟩ | ⟨-, hold⟩
    · exact List.mem_cons_self
    · exact List.mem_cons_of_mem _ (hb.claimed a' e' hold)
  case fresh =>
    intro a' e' hold
    rw [ran]
    rcases cases_of a' e' hold with ⟨-, rfl⟩ | ⟨-, hold⟩
    · -- An entry that ran would be claimed already.
      obtain ⟨name, hx⟩ := known
      exact fun hi => unclaimed (hb.ran_claimed (name, e') hx once hi)
    · exact hb.fresh a' e' hold
  case apart =>
    intro a' a'' e' e'' hold hold' id
    rcases cases_of a' e' hold with ⟨same, rfl⟩ | ⟨-, hold⟩
    · rcases cases_of a'' e'' hold' with ⟨same', -⟩ | ⟨-, hold'⟩
      · exact same.trans same'.symm
      · exact absurd id.symm (others a'' e'' hold')
    · rcases cases_of a'' e'' hold' with ⟨-, rfl⟩ | ⟨-, hold'⟩
      · exact absurd id (others a' e' hold)
      · exact hb.apart a' a'' e' e'' hold hold' id
  case reason =>
    intro i hi
    rw [claimed] at hi
    rw [ran]
    rcases List.mem_cons.1 hi with rfl | hi
    · exact .inl ⟨a, e, phase_self stand, rfl⟩
    · exact (hb.reason i hi).imp_left fun ⟨a', e', hold, id⟩ =>
        ⟨a', e', phase_still stand free nofun hold, id⟩
  case ran_known =>
    rw [ran, subscribed]
    exact hb.ran_known
  case ran_claimed =>
    intro x hx often hi
    rw [claimed]
    exact List.mem_cons_of_mem _ (hb.ran_claimed x (subscribed ▸ hx) often (ran ▸ hi))
  case ran_once =>
    rw [ran, subscribed]
    exact hb.ran_once

theorem release (hb : b.Claimed) {e : Entry h} (holds : b.phase a = .holds e)
    (stand : c.stand = Function.update b.stand a ((b.stand a).at' .free))
    (subscribed : c.ledger.subscribed = b.ledger.subscribed) (ran : c.ledger.ran = b.ledger.ran)
    (claimed : c.registry.claimed = b.registry.claimed.filter (· != e.id)) : c.Claimed := by
  have before : ∀ a' e', c.phase a' = .holds e' → a' ≠ a ∧ b.phase a' = .holds e' :=
    fun a' e' hold => phase_busy stand rfl hold nofun
  have left : ∀ i, i ∈ c.registry.claimed ↔ i ∈ b.registry.claimed ∧ i ≠ e.id := by
    intro i
    rw [claimed, List.mem_filter, bne_iff_ne]
  constructor
  case known =>
    intro a' e' hold
    rw [subscribed]
    exact hb.known a' e' (before a' e' hold).2
  case claimed =>
    intro a' e' hold
    obtain ⟨ne, hold⟩ := before a' e' hold
    -- The other holders' claims are on other ids, which are not given back.
    exact (left _).2 ⟨hb.claimed a' e' hold, fun id => ne (hb.apart a' a e' e hold holds id)⟩
  case fresh =>
    intro a' e' hold
    rw [ran]
    exact hb.fresh a' e' (before a' e' hold).2
  case apart =>
    intro a' a'' e' e'' hold hold'
    exact hb.apart a' a'' e' e'' (before a' e' hold).2 (before a'' e'' hold').2
  case reason =>
    intro i hi
    obtain ⟨hi, ne⟩ := (left i).1 hi
    rw [ran]
    refine (hb.reason i hi).imp_left fun ⟨a', e', hold, id⟩ => ⟨a', e', ?_, id⟩
    apply phase_still stand holds _ hold
    rintro ⟨⟩
    exact ne id.symm
  case ran_known =>
    rw [ran, subscribed]
    exact hb.ran_known
  case ran_claimed =>
    intro x hx once hi
    rw [ran] at hi
    -- Only what did not run is given back.
    have ne : x.2.id ≠ e.id := fun id => hb.fresh a e holds (id ▸ hi)
    exact (left _).2 ⟨hb.ran_claimed x (subscribed ▸ hx) once hi, ne⟩
  case ran_once =>
    rw [ran, subscribed]
    exact hb.ran_once

/-- A `once` entry is run by the thread that holds the claim on it, which nobody gets again. -/
theorem run (hb : b.Claimed) (filed : b.Filed) {e : Entry h} (may : (b.stand a).MayRun e)
    (stand : c.stand = Function.update b.stand a ((b.stand a).at' .free))
    (subscribed : c.ledger.subscribed = b.ledger.subscribed)
    (ran : c.ledger.ran.Perm (e.id :: b.ledger.ran))
    (claimed : c.registry.claimed = b.registry.claimed) : c.Claimed := by
  have before : ∀ a' e', c.phase a' = .holds e' → a' ≠ a ∧ b.phase a' = .holds e' :=
    fun a' e' hold => phase_busy stand rfl hold nofun
  have mem_ran : ∀ i, i ∈ c.ledger.ran ↔ i = e.id ∨ i ∈ b.ledger.ran := fun i =>
    ran.mem_iff.trans List.mem_cons
  obtain ⟨name, known⟩ := filed.of_knows may.1
  -- A `once` entry with this id is this entry, and so `a` holds the claim on it.
  have once_of_id : ∀ x ∈ b.ledger.subscribed, x.2.options.once → x.2.id = e.id →
      b.phase a = .holds e := by
    intro x hx once id
    cases filed.eq_of_id hx known id
    exact may.holds once
  constructor
  case known =>
    intro a' e' hold
    rw [subscribed]
    exact hb.known a' e' (before a' e' hold).2
  case claimed =>
    intro a' e' hold
    rw [claimed]
    exact hb.claimed a' e' (before a' e' hold).2
  case fresh =>
    intro a' e' hold
    obtain ⟨ne, hold⟩ := before a' e' hold
    rw [mem_ran, not_or]
    refine ⟨fun id => ?_, hb.fresh a' e' hold⟩
    obtain ⟨once, n, hx⟩ := hb.known a' e' hold
    exact ne (hb.apart a' a e' e hold (once_of_id (n, e') hx once id) id)
  case apart =>
    intro a' a'' e' e'' hold hold'
    exact hb.apart a' a'' e' e'' (before a' e' hold).2 (before a'' e'' hold').2
  case reason =>
    intro i hi
    rw [claimed] at hi
    rw [mem_ran]
    rcases hb.reason i hi with ⟨a', e', hold, id⟩ | hi
    · by_cases same : a' = a
      · -- The claim that `a` held is from now on explained by the run.
        subst same
        by_cases once : e.options.once
        · have both := (may.holds once).symm.trans hold
          cases both
          exact .inr (.inl id.symm)
        · have neither := (may.free once).symm.trans hold
          cases neither
      · exact .inl ⟨a', e', phase_other stand same hold, id⟩
    · exact .inr (.inr hi)
  case ran_known =>
    intro i hi
    rw [subscribed]
    rcases (mem_ran i).1 hi with rfl | hi
    · exact ⟨(name, e), known, rfl⟩
    · exact hb.ran_known i hi
  case ran_claimed =>
    intro x hx once hi
    rw [subscribed] at hx
    rw [claimed]
    rcases (mem_ran _).1 hi with id | hi
    · exact id ▸ hb.claimed a e (once_of_id x hx once id)
    · exact hb.ran_claimed x hx once hi
  case ran_once =>
    intro x hx once
    rw [subscribed] at hx
    rw [ran.count_eq, List.count_cons]
    by_cases id : x.2.id = e.id
    · have unrun : b.ledger.ran.count x.2.id = 0 :=
        List.count_eq_zero.2 (id ▸ hb.fresh a e (once_of_id x hx once id))
      rw [unrun]
      split <;> omega
    · rw [if_neg (by simpa using Ne.symm id)]
      exact hb.ran_once x hx once

theorem deed (hb : b.Claimed) (filed : b.Filed) (deed : b.Deed a c) : c.Claimed := by
  cases deed with
  | plain ledger lastId entries claimed =>
    exact hb.frame (stand_of_ledger ledger a) (fun _ => Iff.rfl) (congrArg Ledger.subscribed ledger)
      (congrArg Ledger.ran ledger) claimed
  | insert name e issued =>
    exact hb.insert (filed.issued_new a e.id issued) rfl issued rfl rfl rfl
  | claim e once unclaimed free inside known =>
    exact hb.claim once (filed.of_knows known) unclaimed free rfl rfl rfl rfl
  | release e holds => exact hb.release holds rfl rfl rfl rfl
  | accept e may => exact hb.run filed may rfl rfl List.perm_middle rfl
  | invoke e may => exact hb.run filed may rfl rfl (List.Perm.refl _) rfl
  | snapshot name free => exact hb.frame rfl (fun _ => Iff.rfl) rfl rfl rfl
  | begin e entrusted =>
    exact hb.frame rfl (fun _ => phase_iff_of_ne entrusted nofun nofun) rfl rfl rfl
  | drop name id retiring =>
    exact hb.frame rfl (fun _ => phase_iff_of_ne retiring nofun nofun) rfl rfl rfl
  | clear name ids clearing known =>
    exact hb.frame rfl (fun _ => phase_iff_of_ne clearing nofun nofun) rfl rfl rfl
  | rest free => exact hb.frame rfl (fun _ => phase_iff_of_ne free nofun nofun) rfl rfl rfl
  | entrust e free => exact hb.frame rfl (fun _ => phase_iff_of_ne free nofun nofun) rfl rfl rfl
  | takeId free => exact hb.frame rfl (fun _ => phase_iff_of_ne free nofun nofun) rfl rfl rfl
  | retire id free => exact hb.frame rfl (fun _ => phase_iff_of_ne free nofun nofun) rfl rfl rfl
  | leave free => exact hb.frame rfl (fun _ => phase_iff_of_ne free nofun nofun) rfl rfl rfl
  | find es ids spent free inside known =>
    exact hb.frame rfl (fun _ => phase_iff_of_ne free nofun nofun) rfl rfl rfl

end Claimed
end EventDispatch.Account
