import EventDispatch.Proofs.Once.Deliveries

namespace EventDispatch

variable {h : Host} {α : Type}

namespace Occurrence

def inserted : Occurrence h → List (String × Entry h)
  | .performed (.insert name e) _ => [(name, e)]
  | _ => []

def givenUp : Occurrence h → List Nat
  | .performed (.retire id) granted => if granted then [id] else []
  | _ => []

/-- A job that was accepted and is now run is no invocation of its own. -/
def invoked (p : Phase h) : Occurrence h → List Nat
  | .called (.listener e _ _) =>
    match p with
    | .entrusted _ => []
    | _ => [e.id]
  | _ => []

def accepted : Occurrence h → List Nat
  | .performed (.enqueue (.listener e _ _)) (.ok _) => [e.id]
  | _ => []

def foundSpent : Occurrence h → List Nat
  | .performed (.spent _) ids => ids
  | _ => []

end Occurrence

/-- What became of each entry, read off the history of a course. -/
structure Ledger (h : Host) where
  stand : Actor → Standing h
  /-- The entries that were ever registered, with their names. -/
  subscribed : List (String × Entry h)
  unsubscribed : List Nat
  /-- Whose listeners were called by the delivery itself. -/
  invoked : List Nat
  /-- Whose listeners the pool accepted as a job. -/
  accepted : List Nat
  /-- Which entries a delivery found spent when it ended. -/
  foundSpent : List Nat

namespace Ledger

def empty : Ledger h := ⟨fun _ => .rest, [], [], [], [], []⟩

def note (l : Ledger h) (a : Actor) (o : Occurrence h) : Ledger h where
  stand := Function.update l.stand a ((l.stand a).after o)
  subscribed := o.inserted ++ l.subscribed
  unsubscribed := o.givenUp ++ l.unsubscribed
  invoked := o.invoked (l.stand a).phase ++ l.invoked
  accepted := o.accepted ++ l.accepted
  foundSpent := o.foundSpent ++ l.foundSpent

def of : List (Actor × Occurrence h) → Ledger h
  | [] => empty
  | (a, o) :: earlier => (of earlier).note a o

/-- The entries whose listener was called by a delivery or accepted by the pool. -/
def ran (l : Ledger h) : List Nat := l.invoked ++ l.accepted

theorem mem_ran {l : Ledger h} {i : Nat} : i ∈ l.ran ↔ i ∈ l.invoked ∨ i ∈ l.accepted :=
  List.mem_append

theorem note_plain (l : Ledger h) (a : Actor) {o : Op h} (ho : o.IsPlain) (x : o.Answer) :
    l.note a (.performed o x) = l := by
  have same : (l.stand a).after (.performed o x) = l.stand a := (l.stand a).after_plain ho x
  simp only [note, same, Function.update_eq_self]
  cases o with
  | enqueue job => cases job <;> first | exact ho.elim | rfl
  | _ => first | exact ho.elim | rfl

theorem subscribed_note {l : Ledger h} (a : Actor) (o : Occurrence h) :
    l.subscribed ⊆ (l.note a o).subscribed :=
  List.subset_append_right _ _

theorem ran_note {l : Ledger h} (a : Actor) (o : Occurrence h) : l.ran ⊆ (l.note a o).ran := by
  intro i hi
  apply mem_ran.2
  exact (mem_ran.1 hi).imp (List.mem_append_right _) (List.mem_append_right _)

end Ledger

structure Account (h : Host) where
  ledger : Ledger h
  registry : Registry h
  lastId : Nat

namespace Course

def ledger (s : Course h α) : Ledger h := .of s.history

def account (s : Course h α) : Account h := ⟨s.ledger, s.world.registry, s.world.lastId⟩

end Course

namespace Account

def stand (b : Account h) : Actor → Standing h := b.ledger.stand

def phase (b : Account h) (a : Actor) : Phase h := (b.stand a).phase

def put (b : Account h) (a : Actor) (s : Standing h) : Account h :=
  { b with ledger.stand := Function.update b.stand a s }

def move (b : Account h) (a : Actor) (p : Phase h) : Account h := b.put a ((b.stand a).at' p)

variable {a a' : Actor} {b c : Account h} {s : Standing h}

theorem stand_self (stand : c.stand = Function.update b.stand a s) : c.stand a = s := by
  rw [stand, Function.update_self]

theorem stand_other (stand : c.stand = Function.update b.stand a s) (ne : a' ≠ a) :
    c.stand a' = b.stand a' := by
  rw [stand, Function.update_of_ne ne]

/-- A turn that left the ledger alone moved its thread nowhere. -/
theorem stand_of_ledger (ledger : c.ledger = b.ledger) (a : Actor) :
    c.stand = Function.update b.stand a (b.stand a) := by
  rw [Function.update_eq_self]
  exact congrArg Ledger.stand ledger

theorem shown_of_phase {p : Phase h} (stand : c.stand = Function.update b.stand a ((b.stand a).at' p))
    (a' : Actor) : (c.stand a').shown = (b.stand a').shown := by
  by_cases same : a' = a
  · subst same
    rw [stand_self stand]
    rfl
  · rw [stand_other stand same]

theorem phase_self (stand : c.stand = Function.update b.stand a s) : c.phase a = s.phase :=
  congrArg Standing.phase (stand_self stand)

theorem phase_other {p : Phase h} (stand : c.stand = Function.update b.stand a s) (ne : a' ≠ a)
    (hp : b.phase a' = p) : c.phase a' = p :=
  (congrArg Standing.phase (stand_other stand ne)).trans hp

/-- What `a` is at after its turn, and what the others are at. -/
theorem phase_cases {p : Phase h} (stand : c.stand = Function.update b.stand a s)
    (hp : c.phase a' = p) : a' = a ∧ s.phase = p ∨ a' ≠ a ∧ b.phase a' = p := by
  by_cases same : a' = a
  · subst same
    exact .inl ⟨rfl, (phase_self stand).symm.trans hp⟩
  · exact .inr ⟨same, (congrArg Standing.phase (stand_other stand same)).symm.trans hp⟩

/-- When `a` is done with something, whoever is busy was so before. -/
theorem phase_busy {p : Phase h} (stand : c.stand = Function.update b.stand a s)
    (free : s.phase = .free) (hp : c.phase a' = p) (busy : p ≠ .free) :
    a' ≠ a ∧ b.phase a' = p := by
  rcases phase_cases stand hp with ⟨-, own⟩ | other
  · exact absurd (own.symm.trans free) busy
  · exact other

/-- A turn of a thread that was not in a phase takes nobody out of it. -/
theorem phase_still {p q : Phase h} (stand : c.stand = Function.update b.stand a s)
    (own : b.phase a = p) (ne : p ≠ q) (hq : b.phase a' = q) : c.phase a' = q := by
  apply phase_other stand _ hq
  rintro rfl
  exact ne (own.symm.trans hq)

/-- A turn that takes its own thread neither into a phase nor out of it takes no thread so. -/
theorem phase_iff {p : Phase h} (stand : c.stand = Function.update b.stand a s)
    (own : s.phase = p ↔ b.phase a = p) (a' : Actor) : c.phase a' = p ↔ b.phase a' = p := by
  by_cases same : a' = a
  · subst same
    rw [phase_self stand]
    exact own
  · rw [phase, stand_other stand same]
    rfl

theorem phase_iff_of_ne {p p' q : Phase h} (own : b.phase a = p) (before : p ≠ q) (after : p' ≠ q) :
    p' = q ↔ b.phase a = q := by
  rw [own]
  exact iff_of_false after before

end Account
end EventDispatch
