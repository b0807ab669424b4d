import EventDispatch.Proofs.Once.Filed

namespace EventDispatch.Account

variable {h : Host} {a : Actor} {b c : Account h} {s : Standing h}

structure Swept (b : Account h) : Prop where
  inside : ∀ a ids, b.phase a = .clearing ids → 0 < (b.stand a).depth
  clearing_found : ∀ a ids, b.phase a = .clearing ids → ∀ i ∈ ids, i ∈ b.ledger.foundSpent
  retiring_given : ∀ a i, b.phase a = .retiring i → i ∈ b.ledger.unsubscribed
  found_known : ∀ i ∈ b.ledger.foundSpent, ∃ x ∈ b.ledger.subscribed, x.2.id = i
  kept : ∀ x ∈ b.ledger.subscribed, x.2 ∈ b.registry.entries x.1 ∨
    x.2.id ∈ b.ledger.unsubscribed ∨ x.2.id ∈ b.ledger.foundSpent
  swept : ∀ x ∈ b.ledger.subscribed, x.2.id ∈ b.ledger.foundSpent →
    x.2 ∉ b.registry.entries x.1 ∨ ∃ a ids, b.phase a = .clearing ids ∧ x.2.id ∈ ids

namespace Swept

theorem empty : Swept (⟨.empty, .empty, 0⟩ : Account h) where
  inside _ _ clearing := by cases clearing
  clearing_found _ _ clearing := by cases clearing
  retiring_given _ _ retiring := by cases retiring
  found_known _ hi := by cases hi
  kept _ hx := by cases hx
  swept _ hx := by cases hx

/-- Turns in which nothing is found spent and nothing is put into the registry or taken out. -/
theorem frame (hb : b.Swept) (stand : c.stand = Function.update b.stand a s)
    (clearing : ∀ ids, s.phase = .clearing ids ↔ b.phase a = .clearing ids)
    (inside : ∀ ids, s.phase = .clearing ids → 0 < s.depth)
    (given : ∀ i, s.phase = .retiring i → i ∈ c.ledger.unsubscribed)
    (subscribed : c.ledger.subscribed = b.ledger.subscribed)
    (unsubscribed : b.ledger.unsubscribed ⊆ c.ledger.unsubscribed)
    (found : c.ledger.foundSpent = b.ledger.foundSpent)
    (entries : c.registry.entries = b.registry.entries) : c.Swept := by
  have before : ∀ a' ids, c.phase a' = .clearing ids ↔ b.phase a' = .clearing ids :=
    fun a' ids => phase_iff stand (clearing ids) a'
  constructor
  case inside =>
    intro a' ids hp
    rcases phase_cases stand hp with ⟨rfl, hp⟩ | ⟨ne, hp⟩
    · rw [stand_self stand]
      exact inside ids hp
    · rw [stand_other stand ne]
      exact hb.inside a' ids hp
  case clearing_found =>
    intro a' ids hp
    rw [found]
    exact hb.clearing_found a' ids ((before a' ids).1 hp)
  case retiring_given =>
    intro a' i hp
    rcases phase_cases stand hp with ⟨-, hp⟩ | ⟨-, hp⟩
    · exact given i hp
    · exact unsubscribed (hb.retiring_given a' i hp)
  case found_known =>
    rw [found, subscribed]
    exact hb.found_known
  case kept =>
    intro x hx
    rw [entries, found]
    exact (hb.kept x (subscribed ▸ hx)).imp_right (Or.imp_left fun hi => unsubscribed hi)
  case swept =>
    intro x hx hi
    rw [entries]
    exact (hb.swept x (subscribed ▸ hx) (found ▸ hi)).imp_right fun ⟨a', ids, hp, mem⟩ =>
      ⟨a', ids, (before a' ids).2 hp, mem⟩

theorem insert (hb : b.Swept) {name : String} {e : Entry h} (issued : b.phase a = .issued e.id)
    (new : ∀ x ∈ b.ledger.subscribed, x.2.id ≠ e.id)
    (stand : c.stand = Function.update b.stand a ((b.stand a).at' .free))
    (subscribed : c.ledger.subscribed = (name, e) :: b.ledger.subscribed)
    (unsubscribed : c.ledger.unsubscribed = b.ledger.unsubscribed)
    (found : c.ledger.foundSpent = b.ledger.foundSpent)
    (registry : c.registry = b.registry.insert name e) : c.Swept := by
  have unfound : e.id ∉ b.ledger.foundSpent := by
    intro hi
    obtain ⟨x, hx, id⟩ := hb.found_known e.id hi
    exact new x hx id
  have busy : ∀ a' p, c.phase a' = p → p ≠ .free → a' ≠ a ∧ b.phase a' = p := fun a' p hp ne =>
    phase_busy stand rfl hp ne
  constructor
  case inside =>
    intro a' ids hp
    obtain ⟨ne, hp⟩ := busy a' _ hp nofun
    rw [stand_other stand ne]
    exact hb.inside a' ids hp
  case clearing_found =>
    intro a' ids hp
    rw [found]
    exact hb.clearing_found a' ids (busy a' _ hp nofun).2
  case retiring_given =>
    intro a' i hp
    rw [unsubscribed]
    exact hb.retiring_given a' i (busy a' _ hp nofun).2
  case found_known =>
    intro i hi
    obtain ⟨x, hx, id⟩ := hb.found_known i (found ▸ hi)
    exact ⟨x, subscribed ▸ List.mem_cons_of_mem _ hx, id⟩
  case kept =>
    intro x hx
    rw [subscribed] at hx
    rw [registry, unsubscribed, found, Registry.mem_entries_insert]
    rcases List.mem_cons.1 hx with rfl | hx
    · exact .inl (.inr ⟨rfl, rfl⟩)
    · exact (hb.kept x hx).imp_left .inl
  case swept =>
    intro x hx hi
    rw [subscribed] at hx
    rw [found] at hi
    rcases List.mem_cons.1 hx with rfl | hx
    · exact absurd hi unfound
    · -- What was taken out does not come back, since the new entry has another id.
      rw [registry, Registry.mem_entries_insert]
      refine (hb.swept x hx hi).imp (fun gone => ?_) fun ⟨a', ids, hp, mem⟩ =>
        ⟨a', ids, phase_still stand issued nofun hp, mem⟩
      rintro (here | ⟨-, same⟩)
      · exact gone here
      · exact new x hx (congrArg Entry.id same)

/-- A delivery ends by taking out what it found spent, at the latest. -/
theorem find (hb : b.Swept) {ids : List Nat} (free : b.phase a = .free)
    (inside : 0 < (b.stand a).depth) (known : ∀ i ∈ ids, ∃ x ∈ b.ledger.subscribed, x.2.id = i)
    (stand : c.stand = Function.update b.stand a ((b.stand a).at' (.clearing ids)))
    (subscribed : c.ledger.subscribed = b.ledger.subscribed)
    (unsubscribed : c.ledger.unsubscribed = b.ledger.unsubscribed)
    (found : c.ledger.foundSpent = ids ++ b.ledger.foundSpent)
    (registry : c.registry = b.registry) : c.Swept := by
  constructor
  case inside =>
    intro a' ids' hp
    rcases phase_cases stand hp with ⟨rfl, -⟩ | ⟨ne, hp⟩
    · rw [stand_self stand]
      exact inside
    · rw [stand_other stand ne]
      exact hb.inside a' ids' hp
  case clearing_found =>
    intro a' ids' hp i hi
    rw [found]
    rcases phase_cases stand hp with ⟨-, hp⟩ | ⟨-, hp⟩
    · cases hp
      exact List.mem_append_left _ hi
    · exact List.mem_append_right _ (hb.clearing_found a' ids' hp i hi)
  case retiring_given =>
    intro a' i hp
    rw [unsubscribed]
    rcases phase_cases stand hp with ⟨-, hp⟩ | ⟨-, hp⟩
    · cases hp
    · exact hb.retiring_given a' i hp
  case found_known =>
    intro i hi
    rw [found] at hi
    rw [subscribed]
    exact (List.mem_append.1 hi).elim (known i) (hb.found_known i)
  case kept =>
    intro x hx
    rw [registry, unsubscribed, found]
    exact (hb.kept x (subscribed ▸ hx)).imp_right (Or.imp_right (List.mem_append_right _))
  case swept =>
    intro x hx hi
    rw [found] at hi
    rw [registry]
    rcases List.mem_append.1 hi with hi | hi
    · exact .inr ⟨a, ids, phase_self stand, hi⟩
    · exact (hb.swept x (subscribed ▸ hx) hi).imp_right fun ⟨a', ids', hp, mem⟩ =>
        ⟨a', ids', phase_still stand free nofun hp, mem⟩

/-- Taking ids out of the registry, which were given up or found spent. What `a` was clearing has to
be among what goes. -/
theorem remove (hb : b.Swept) {name : String} {ids : List Nat} (free : s.phase = .free)
    (reason : ∀ i ∈ ids, i ∈ b.ledger.unsubscribed ∨ i ∈ b.ledger.foundSpent)
    (cleared : ∀ ids', b.phase a = .clearing ids' → ∀ x ∈ b.ledger.subscribed, x.2.id ∈ ids' →
      x.1 = name ∧ x.2.id ∈ ids)
    (stand : c.stand = Function.update b.stand a s)
    (subscribed : c.ledger.subscribed = b.ledger.subscribed)
    (unsubscribed : c.ledger.unsubscribed = b.ledger.unsubscribed)
    (found : c.ledger.foundSpent = b.ledger.foundSpent)
    (registry : c.registry = b.registry.removeAll name ids) : c.Swept := by
  have busy : ∀ a' p, c.phase a' = p → p ≠ .free → a' ≠ a ∧ b.phase a' = p := fun a' p hp ne =>
    phase_busy stand free hp ne
  constructor
  case inside =>
    intro a' ids' hp
    obtain ⟨ne, hp⟩ := busy a' _ hp nofun
    rw [stand_other stand ne]
    exact hb.inside a' ids' hp
  case clearing_found =>
    intro a' ids' hp
    rw [found]
    exact hb.clearing_found a' ids' (busy a' _ hp nofun).2
  case retiring_given =>
    intro a' i hp
    rw [unsubscribed]
    exact hb.retiring_given a' i (busy a' _ hp nofun).2
  case found_known =>
    rw [found, subscribed]
    exact hb.found_known
  case kept =>
    intro x hx
    rw [registry, unsubscribed, found, Registry.mem_entries_removeAll]
    by_cases taken : x.2.id ∈ ids
    · exact .inr (reason x.2.id taken)
    · exact (hb.kept x (subscribed ▸ hx)).imp_left fun here => ⟨here, fun _ => taken⟩
  case swept =>
    intro x hx hi
    rw [subscribed] at hx
    rw [registry, Registry.mem_entries_removeAll]
    rcases hb.swept x hx (found ▸ hi) with gone | ⟨a', ids', hp, mem⟩
    · exact .inl fun here => gone here.1
    · by_cases same : a' = a
      · -- `a` has kept its promise to take this entry out.
        subst same
        obtain ⟨at_name, taken⟩ := cleared ids' hp x hx mem
        exact .inl fun here => here.2 at_name.symm taken
      · exact .inr ⟨a', ids', phase_other stand same hp, mem⟩

theorem deed (hb : b.Swept) (filed : b.Filed) (deed : b.Deed a c) : c.Swept := by
  have refl {l : List Nat} : l ⊆ l := List.Subset.refl l
  cases deed with
  | plain ledger lastId entries claimed =>
    exact hb.frame (stand_of_ledger ledger a) (fun _ => Iff.rfl) (hb.inside a)
      (fun i hp => congrArg Ledger.unsubscribed ledger ▸ hb.retiring_given a i hp)
      (congrArg Ledger.subscribed ledger) (congrArg Ledger.unsubscribed ledger ▸ refl)
      (congrArg Ledger.foundSpent ledger) entries
  | insert name e issued =>
    exact hb.insert issued (filed.issued_new a e.id issued) rfl rfl rfl rfl rfl
  | find es ids spent free inside known =>
    refine hb.find free inside (fun i hi => ?_) rfl rfl rfl rfl rfl
    rw [spent] at hi
    obtain ⟨e, he, id⟩ := List.mem_map.1 hi
    obtain ⟨name, hx⟩ := filed.of_knows (known e (List.mem_filter.1 he).1)
    exact ⟨(name, e), hx, id⟩
  | drop name id retiring =>
    refine hb.remove (s := (b.stand a).at' .free) rfl (fun i hi => ?_) (fun ids hp => ?_)
      rfl rfl rfl rfl rfl
    · rw [List.mem_singleton.1 hi]
      exact .inl (hb.retiring_given a id retiring)
    · cases retiring.symm.trans hp
  | clear name ids clearing known =>
    refine hb.remove (s := (b.stand a).leave) rfl (fun i hi => ?_) (fun ids' hp x hx mem => ?_)
      rfl rfl rfl rfl rfl
    · exact .inr (hb.clearing_found a ids clearing i hi)
    · rw [clearing] at hp
      cases hp
      -- The id was shown under this name, so that it is this name the entry was registered under.
      obtain ⟨e, he, id⟩ := known x.2.id mem
      cases filed.eq_of_id (filed.shown a _ he) hx id
      exact ⟨rfl, mem⟩
  | retire id free =>
    refine hb.frame rfl (fun _ => phase_iff_of_ne free nofun nofun) nofun (fun i hp => ?_) rfl
      (List.subset_cons_self _ _) rfl rfl
    cases hp
    exact List.mem_cons_self
  | snapshot name free =>
    exact hb.frame rfl (fun _ => Iff.rfl) (fun _ _ => Nat.succ_pos _) (hb.retiring_given a) rfl refl
      rfl rfl
  | begin e entrusted =>
    exact hb.frame rfl (fun _ => phase_iff_of_ne entrusted nofun nofun) nofun nofun rfl refl rfl rfl
  | release e holds =>
    exact hb.frame rfl (fun _ => phase_iff_of_ne holds nofun nofun) nofun nofun rfl refl rfl rfl
  | accept e may =>
    exact hb.frame rfl (fun _ => iff_of_false nofun (may.phase_ne nofun nofun)) nofun nofun rfl refl
      rfl rfl
  | invoke e may =>
    exact hb.frame rfl (fun _ => iff_of_false nofun (may.phase_ne nofun nofun)) nofun nofun rfl refl
      rfl rfl
  | rest free =>
    exact hb.frame rfl (fun _ => phase_iff_of_ne free nofun nofun) nofun nofun rfl refl rfl rfl
  | entrust e free =>
    exact hb.frame rfl (fun _ => phase_iff_of_ne free nofun nofun) nofun nofun rfl refl rfl rfl
  | takeId free =>
    exact hb.frame rfl (fun _ => phase_iff_of_ne free nofun nofun) nofun nofun rfl refl rfl rfl
  | claim e once unclaimed free inside known =>
    exact hb.frame rfl (fun _ => phase_iff_of_ne free nofun nofun) nofun nofun rfl refl rfl rfl
  | leave free =>
    exact hb.frame rfl (fun _ => phase_iff_of_ne free nofun nofun) nofun nofun rfl refl rfl rfl

end Swept
end EventDispatch.Account
