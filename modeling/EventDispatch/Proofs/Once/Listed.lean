import EventDispatch.Proofs.Once.AtMostOnce

namespace EventDispatch

variable {h : Host} {α : Type}

namespace Account

variable {a : Actor} {b c : Account h}

def Listed (b : Account h) : Prop := ∀ name, ((b.registry.entries name).map (·.id)).Nodup

namespace Listed

theorem empty : Listed (⟨.empty, .empty, 0⟩ : Account h) := fun _ => List.nodup_nil

theorem insert (hb : b.Listed) (name : String) {e : Entry h}
    (new : ∀ x ∈ b.registry.entries name, x.id ≠ e.id) (n : String) :
    (((b.registry.insert name e).entries n).map (·.id)).Nodup := by
  rw [Registry.insert, Registry.entries_put]
  split
  · have sorted := (List.mergeSort_perm (b.registry.entries name ++ [e]) Registry.byPriority).map (·.id)
    rw [sorted.nodup_iff, List.map_append, List.nodup_append]
    refine ⟨hb name, List.nodup_singleton _, fun i hi j hj => ?_⟩
    obtain ⟨x, hx, rfl⟩ := List.mem_map.1 hi
    rw [List.mem_singleton.1 hj]
    exact new x hx
  · exact hb n

theorem removeAll (hb : b.Listed) (name : String) (ids : List Nat) (n : String) :
    (((b.registry.removeAll name ids).entries n).map (·.id)).Nodup := by
  rw [Registry.removeAll, Registry.entries_put]
  split
  · exact (hb name).sublist (List.filter_sublist.map _)
  · exact hb n

theorem deed (hb : b.Listed) (filed : b.Filed) (deed : Deed a b c) : c.Listed := by
  cases deed with
  | plain ledger lastId entries claimed =>
    intro name
    rw [entries]
    exact hb name
  | insert name e issued =>
    exact hb.insert name fun x hx =>
      filed.issued_new a e.id issued (name, x) (filed.registered name x hx)
  | drop name id retiring => exact hb.removeAll name [id]
  | clear name ids clearing known => exact hb.removeAll name ids
  | _ => exact hb

end Listed
end Account

theorem Course.Reachable.ids_nodup {app : Application h} {s : Course h α} (reached : s.Reachable app)
    (name : String) : ((s.world.registry.entries name).map (·.id)).Nodup :=
  (reached.account_induct (I := fun b => b.Filed ∧ b.Listed) ⟨.empty, .empty⟩
    fun _ _ _ deed ⟨filed, listed⟩ => ⟨filed.deed deed, listed.deed filed deed⟩).2 name

end EventDispatch
