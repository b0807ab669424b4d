import EventDispatch.Keyed
import Mathlib.Data.List.Induction
import Mathlib.Data.List.Nodup
import Mathlib.Data.List.Sort

namespace EventDispatch

namespace Keyed

variable {α : Type}

theorem find?_insertEntry (key k : String) (value : α) (es : List (String × α)) :
    (insertEntry key value es).find? (·.1 == k) =
      if key = k then some (key, value) else es.find? (·.1 == k) := by
  induction es with
  | nil => by_cases same : key = k <;> simp [insertEntry, same]
  | cons x rest ih =>
    unfold insertEntry
    split
    · by_cases same : key = k <;> simp [same]
    · split
      · next replaced =>
        by_cases same : key = k
        · simp [same]
        · have other : ¬x.1 = k := fun e => same (replaced.trans e)
          simp [same, other]
      · next later =>
        by_cases here : x.1 = k
        · have other : ¬key = k := fun e => later (e.trans here.symm)
          rw [List.find?_cons_of_pos (by simpa using here), if_neg other,
            List.find?_cons_of_pos (by simpa using here)]
        · rw [List.find?_cons_of_neg (by simpa using here),
            List.find?_cons_of_neg (by simpa using here), ih]

theorem find?_insert (key k : String) (value : α) (m : Keyed α) :
    (m.insert key value).find? k = if key = k then some value else m.find? k := by
  simp only [find?, insert, find?_insertEntry]
  split <;> rfl

theorem find?_erase (key k : String) (m : Keyed α) :
    (m.erase key).find? k = if key = k then none else m.find? k := by
  simp only [find?, erase, List.find?_filter]
  split
  · next same =>
    rw [List.find?_eq_none.2, Option.map_none]
    intro e _
    simp [same]
  · next other =>
    congr 2
    funext e
    by_cases at_k : e.1 = k
    · simp [at_k, Ne.symm other]
    · simp [at_k]

theorem keys_pairwise (m : Keyed α) : m.keys.Pairwise (· < ·) := List.pairwise_map.2 m.sorted

theorem keys_nodup (m : Keyed α) : m.keys.Nodup :=
  List.Pairwise.imp String.ne_of_lt m.keys_pairwise

theorem find?_map_eq_some_iff {es : List (String × α)} (distinct : (es.map (·.1)).Nodup) {k : String}
    {v : α} : (es.find? (·.1 == k)).map (·.2) = some v ↔ (k, v) ∈ es := by
  simp only [Option.map_eq_some_iff]
  constructor
  · rintro ⟨e, found, rfl⟩
    have key : e.1 = k := by simpa using List.find?_some found
    rw [← key]
    exact List.mem_of_find?_eq_some found
  · intro mem
    -- The entry is found because no other one has the key.
    have some : (es.find? (·.1 == k)).isSome := List.find?_isSome.2 ⟨(k, v), mem, beq_iff_eq.2 rfl⟩
    obtain ⟨e, found⟩ := Option.isSome_iff_exists.1 some
    have key : e.1 = k := by simpa using List.find?_some found
    have same := List.inj_on_of_nodup_map distinct (List.mem_of_find?_eq_some found) mem key
    exact ⟨e, found, congrArg Prod.snd same⟩

theorem find?_eq_some_iff {k : String} {v : α} {m : Keyed α} :
    m.find? k = some v ↔ (k, v) ∈ m.entries :=
  find?_map_eq_some_iff m.keys_nodup

theorem mem_keys_iff {k : String} {m : Keyed α} : k ∈ m.keys ↔ (m.find? k).isSome := by
  simp only [keys, List.mem_map, Option.isSome_iff_exists, find?_eq_some_iff]
  constructor
  · rintro ⟨e, mem, rfl⟩
    exact ⟨e.2, mem⟩
  · rintro ⟨v, mem⟩
    exact ⟨(k, v), mem, rfl⟩

theorem ext_find? {m m' : Keyed α} (same : ∀ k, m.find? k = m'.find? k) : m = m' := by
  obtain ⟨es, sorted⟩ := m
  obtain ⟨es', sorted'⟩ := m'
  -- Two entries in strict order are not in the other order as well.
  have antisymm : Std.Antisymm fun a b : String × α => a.1 < b.1 :=
    ⟨fun a b first later => absurd later (String.lt_asymm first)⟩
  have irrefl : Std.Irrefl fun a b : String × α => a.1 < b.1 :=
    ⟨fun a => String.lt_irrefl a.1⟩
  have entries : es = es' := by
    apply sorted.eq_of_mem_iff sorted'
    rintro ⟨k, v⟩
    have found := same k
    rw [Option.ext_iff] at found
    simpa only [find?_eq_some_iff] using found v
  cases entries
  rfl

theorem ofList_append_singleton (es : List (String × α)) (e : String × α) :
    ofList (es ++ [e]) = (ofList es).insert e.1 e.2 := by
  rw [ofList, List.foldl_append]
  rfl

theorem find?_ofList (k : String) (es : List (String × α)) :
    (ofList es).find? k = (es.reverse.find? (·.1 == k)).map (·.2) := by
  induction es using List.reverseRecOn with
  | nil => rfl
  | append_singleton es e ih =>
    rw [ofList_append_singleton, find?_insert, List.reverse_append, List.reverse_singleton,
      List.singleton_append, ih]
    by_cases same : e.1 = k
    · rw [if_pos same, List.find?_cons_of_pos (by simpa using same), Option.map_some]
    · rw [if_neg same, List.find?_cons_of_neg (by simpa using same)]

/-- The order in which a map is listed makes no difference. -/
theorem ofList_perm {m : Keyed α} {es : List (String × α)} (perm : es.Perm m.entries) :
    ofList es = m := by
  have distinct : (es.reverse.map (·.1)).Nodup :=
    ((es.reverse_perm.trans perm).map _).nodup_iff.2 m.keys_nodup
  apply ext_find?
  intro k
  ext v
  rw [find?_ofList, find?_map_eq_some_iff distinct, find?_eq_some_iff, List.mem_reverse, perm.mem_iff]

def overlaid (m upper : Keyed α) : Keyed α := ofList (m.entries ++ upper.entries)

theorem find?_overlaid (k : String) (m upper : Keyed α) :
    (m.overlaid upper).find? k = (upper.find? k).or (m.find? k) := by
  have listed (m : Keyed α) : (m.entries.reverse.find? (·.1 == k)).map (·.2) = m.find? k := by
    rw [← find?_ofList, ofList_perm (.refl _)]
  rw [overlaid, find?_ofList, List.reverse_append, List.find?_append, Option.map_or, listed, listed]

end Keyed
end EventDispatch
