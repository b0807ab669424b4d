import EventDispatch.Proofs.Once.Deeds
import EventDispatch.Proofs.Registry
import Mathlib.Data.List.Nodup

namespace EventDispatch.Account

variable {h : Host} {a : Actor} {b c : Account h} {s : Standing h}

structure Filed (b : Account h) : Prop where
  ids_nodup : (b.ledger.subscribed.map (·.2.id)).Nodup
  ids_le : ∀ x ∈ b.ledger.subscribed, x.2.id ≤ b.lastId
  issued_le : ∀ a i, b.phase a = .issued i → i ≤ b.lastId
  issued_new : ∀ a i, b.phase a = .issued i → ∀ x ∈ b.ledger.subscribed, x.2.id ≠ i
  issued_apart : ∀ a a' i, b.phase a = .issued i → b.phase a' = .issued i → a = a'
  registered : ∀ name, ∀ e ∈ b.registry.entries name, (name, e) ∈ b.ledger.subscribed
  shown : ∀ a, ∀ x ∈ (b.stand a).shown, x ∈ b.ledger.subscribed

namespace Filed

theorem empty : Filed (⟨.empty, .empty, 0⟩ : Account h) where
  ids_nodup := List.nodup_nil
  ids_le _ hx := by cases hx
  issued_le _ _ hi := by cases hi
  issued_new _ _ hi := by cases hi
  issued_apart _ _ _ hi := by cases hi
  registered _ _ he := by cases he
  shown _ _ hx := by cases hx

theorem eq_of_id (hb : b.Filed) {x y : String × Entry h} (hx : x ∈ b.ledger.subscribed)
    (hy : y ∈ b.ledger.subscribed) (id : x.2.id = y.2.id) : x = y :=
  List.inj_on_of_nodup_map hb.ids_nodup hx hy id

theorem of_knows (hb : b.Filed) {e : Entry h} (known : (b.stand a).Knows e) :
    ∃ name, (name, e) ∈ b.ledger.subscribed :=
  known.imp fun _ hx => hb.shown a _ hx

/-- Turns that take no id and register nothing. -/
theorem frame (hb : b.Filed) (stand : c.stand = Function.update b.stand a s)
    (subscribed : c.ledger.subscribed = b.ledger.subscribed) (lastId : c.lastId = b.lastId)
    (entries : ∀ name, c.registry.entries name ⊆ b.registry.entries name)
    (issued : ∀ i, s.phase = .issued i → b.phase a = .issued i)
    (shown : ∀ x ∈ s.shown, x ∈ b.ledger.subscribed) : c.Filed := by
  -- The conditions on issued ids carry over, because no thread has one that it had not before.
  have before : ∀ a' i, c.phase a' = .issued i → b.phase a' = .issued i := by
    intro a' i hi
    rcases phase_cases stand hi with ⟨rfl, hi⟩ | ⟨-, hi⟩
    · exact issued i hi
    · exact hi
  constructor
  case ids_nodup =>
    rw [subscribed]
    exact hb.ids_nodup
  case ids_le =>
    rw [subscribed, lastId]
    exact hb.ids_le
  case issued_le =>
    intro a' i hi
    rw [lastId]
    exact hb.issued_le a' i (before a' i hi)
  case issued_new =>
    intro a' i hi
    rw [subscribed]
    exact hb.issued_new a' i (before a' i hi)
  case issued_apart =>
    intro a' a'' i hi hi'
    exact hb.issued_apart a' a'' i (before a' i hi) (before a'' i hi')
  case registered =>
    intro name e he
    rw [subscribed]
    exact hb.registered name e (entries name he)
  case shown =>
    intro a' x hx
    rw [subscribed]
    by_cases same : a' = a
    · subst same
      exact shown x (stand_self stand ▸ hx)
    · exact hb.shown a' x (stand_other stand same ▸ hx)

theorem takeId (hb : b.Filed)
    (stand : c.stand = Function.update b.stand a ((b.stand a).at' (.issued (b.lastId + 1))))
    (subscribed : c.ledger.subscribed = b.ledger.subscribed) (lastId : c.lastId = b.lastId + 1)
    (registry : c.registry = b.registry) : c.Filed := by
  have issued : ∀ a' i, c.phase a' = .issued i →
      a' = a ∧ i = b.lastId + 1 ∨ a' ≠ a ∧ b.phase a' = .issued i := by
    intro a' i hi
    rcases phase_cases stand hi with ⟨same, hi⟩ | other
    · cases hi
      exact .inl ⟨same, rfl⟩
    · exact .inr other
  constructor
  case ids_nodup =>
    rw [subscribed]
    exact hb.ids_nodup
  case ids_le =>
    intro x hx
    rw [lastId]
    exact Nat.le_succ_of_le (hb.ids_le x (subscribed ▸ hx))
  case issued_le =>
    intro a' i hi
    rw [lastId]
    rcases issued a' i hi with ⟨-, rfl⟩ | ⟨-, hi⟩
    · exact Nat.le_refl _
    · exact Nat.le_succ_of_le (hb.issued_le a' i hi)
  case issued_new =>
    intro a' i hi x hx
    rw [subscribed] at hx
    rcases issued a' i hi with ⟨-, rfl⟩ | ⟨-, hi⟩
    · have le := hb.ids_le x hx
      omega
    · exact hb.issued_new a' i hi x hx
  case issued_apart =>
    -- The new id is above all that were issued before.
    intro a' a'' i hi hi'
    rcases issued a' i hi with ⟨rfl, rfl⟩ | ⟨-, hi⟩
    · rcases issued a'' _ hi' with ⟨rfl, -⟩ | ⟨-, hi'⟩
      · rfl
      · have le := hb.issued_le a'' _ hi'
        omega
    · rcases issued a'' i hi' with ⟨rfl, rfl⟩ | ⟨-, hi'⟩
      · have le := hb.issued_le a' _ hi
        omega
      · exact hb.issued_apart a' a'' i hi hi'
  case registered =>
    rw [subscribed, registry]
    exact hb.registered
  case shown =>
    intro a' x hx
    rw [shown_of_phase stand] at hx
    rw [subscribed]
    exact hb.shown a' x hx

theorem insert (hb : b.Filed) {name : String} {e : Entry h} (issued : b.phase a = .issued e.id)
    (stand : c.stand = Function.update b.stand a ((b.stand a).at' .free))
    (subscribed : c.ledger.subscribed = (name, e) :: b.ledger.subscribed)
    (lastId : c.lastId = b.lastId) (registry : c.registry = b.registry.insert name e) :
    c.Filed := by
  have others : ∀ a' i, c.phase a' = .issued i → a' ≠ a ∧ b.phase a' = .issued i :=
    fun a' i hi => phase_busy stand rfl hi nofun
  constructor
  case ids_nodup =>
    rw [subscribed, List.map_cons, List.nodup_cons]
    refine ⟨fun found => ?_, hb.ids_nodup⟩
    obtain ⟨x, hx, id⟩ := List.mem_map.1 found
    exact hb.issued_new a e.id issued x hx id
  case ids_le =>
    intro x hx
    rw [subscribed] at hx
    rw [lastId]
    rcases List.mem_cons.1 hx with rfl | hx
    · exact hb.issued_le a _ issued
    · exact hb.ids_le x hx
  case issued_le =>
    intro a' i hi
    rw [lastId]
    exact hb.issued_le a' i (others a' i hi).2
  case issued_new =>
    intro a' i hi x hx
    rw [subscribed] at hx
    obtain ⟨ne, hi⟩ := others a' i hi
    rcases List.mem_cons.1 hx with rfl | hx
    · -- No other thread had the id that was just used.
      intro same
      exact ne (hb.issued_apart a' a i hi (same ▸ issued))
    · exact hb.issued_new a' i hi x hx
  case issued_apart =>
    intro a' a'' i hi hi'
    exact hb.issued_apart a' a'' i (others a' i hi).2 (others a'' i hi').2
  case registered =>
    intro n x hx
    rw [registry] at hx
    rw [subscribed]
    rcases Registry.mem_entries_insert.1 hx with hx | ⟨rfl, rfl⟩
    · exact List.mem_cons_of_mem _ (hb.registered n x hx)
    · exact List.mem_cons_self
  case shown =>
    intro a' x hx
    rw [shown_of_phase stand] at hx
    rw [subscribed]
    exact List.mem_cons_of_mem _ (hb.shown a' x hx)

theorem deed (hb : b.Filed) (deed : b.Deed a c) : c.Filed := by
  have removed : ∀ name ids n, (b.registry.removeAll name ids).entries n ⊆ b.registry.entries n :=
    fun name ids n x hx => (Registry.mem_entries_removeAll.1 hx).1
  cases deed with
  | plain ledger lastId entries claimed =>
    exact hb.frame (stand_of_ledger ledger a) (congrArg Ledger.subscribed ledger) lastId
      (fun name => entries ▸ List.Subset.refl _) (fun i hi => hi) (hb.shown a)
  | takeId free => exact hb.takeId rfl rfl rfl rfl
  | insert name e issued => exact hb.insert issued rfl rfl rfl rfl
  | drop name id retiring => exact hb.frame rfl rfl rfl (removed name [id]) nofun (hb.shown a)
  | clear name ids clearing known =>
    exact hb.frame rfl rfl rfl (removed name ids) nofun (hb.shown a)
  | snapshot name free =>
    refine hb.frame rfl rfl rfl (fun _ => List.Subset.refl _) (fun i hi => hi) fun x hx => ?_
    rcases List.mem_append.1 hx with hx | hx
    · obtain ⟨e, he, rfl⟩ := List.mem_map.1 hx
      exact hb.registered name e he
    · exact hb.shown a x hx
  | rest free => exact hb.frame rfl rfl rfl (fun _ => List.Subset.refl _) nofun nofun
  | _ => exact hb.frame rfl rfl rfl (fun _ => List.Subset.refl _) nofun (hb.shown a)

end Filed
end EventDispatch.Account
