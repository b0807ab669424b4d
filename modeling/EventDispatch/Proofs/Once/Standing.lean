import EventDispatch.Proofs.Course

namespace EventDispatch

variable {h : Host}

inductive Phase (h : Host) where
  | free
  /-- It took an id for an entry that it has yet to register. -/
  | issued (id : Nat)
  /-- Its claim on a `once` entry was granted, and the listener has not been called. -/
  | holds (e : Entry h)
  /-- It took the job of a listener that it has not called. -/
  | entrusted (e : Entry h)
  /-- It found these entries spent, and has yet to take them out of the registry. -/
  | clearing (ids : List Nat)
  /-- It gave a subscription up that it has yet to take out of the registry. -/
  | retiring (id : Nat)

/-- Where a thread stands with its deliveries and with its claims on `once` entries. -/
structure Standing (h : Host) where
  phase : Phase h
  /-- How many deliveries the thread is in, each inside the one before. -/
  depth : Nat
  /-- The entries that it has seen in snapshots, with their names. -/
  shown : List (String × Entry h)

namespace Standing

def rest : Standing h := ⟨.free, 0, []⟩

def at' (s : Standing h) (p : Phase h) : Standing h := { s with phase := p }

def leave (s : Standing h) : Standing h := ⟨.free, s.depth - 1, s.shown⟩

def after (s : Standing h) : Occurrence h → Standing h
  | .performed .takeId id => s.at' (.issued id)
  | .performed (.insert _ _) _ => s.at' .free
  | .performed (.retire id) granted => if granted then s.at' (.retiring id) else s
  | .performed (.removeAll _ _) _ =>
    -- Either a delivery ends with this, or a subscription was given up.
    match s.phase with
    | .clearing _ => s.leave
    | _ => s.at' .free
  | .performed (.snapshot name) a =>
    { s with depth := s.depth + 1, shown := a.entries.map (name, ·) ++ s.shown }
  -- An entry that may run often is granted without a claim.
  | .performed (.claim e) granted => if e.options.once && granted then s.at' (.holds e) else s
  | .performed (.release _) _ => s.at' .free
  -- A delivery that found nothing spent is over.
  | .performed (.spent _) ids => if ids.isEmpty then s.leave else s.at' (.clearing ids)
  | .performed (.enqueue (.listener _ _ _)) (.ok _) => s.at' .free
  | .called (.listener _ _ _) => s.at' .free
  | .took (.listener e _ _) => s.at' (.entrusted e)
  | .ended => rest
  | _ => s

def Knows (s : Standing h) (e : Entry h) : Prop := ∃ name, (name, e) ∈ s.shown

/-- The right to run an entry: a claim if it is a `once` entry, and nothing otherwise. -/
def MayRun (s : Standing h) (e : Entry h) : Prop :=
  s.Knows e ∧ if e.options.once then s.phase = .holds e else s.phase = .free

theorem MayRun.holds {s : Standing h} {e : Entry h} (may : s.MayRun e) (once : e.options.once) :
    s.phase = .holds e := by
  simpa only [once, if_true] using may.2

theorem MayRun.free {s : Standing h} {e : Entry h} (may : s.MayRun e) (often : ¬e.options.once) :
    s.phase = .free := by
  simpa only [often, Bool.false_eq_true, if_false] using may.2

/-- A thread with the right to run an entry is in no other phase. -/
theorem MayRun.phase_ne {s : Standing h} {e : Entry h} (may : s.MayRun e) {p : Phase h}
    (held : .holds e ≠ p) (free : .free ≠ p) : s.phase ≠ p := by
  by_cases once : e.options.once
  · rw [may.holds once]
    exact held
  · rw [may.free once]
    exact free

theorem at_free {s : Standing h} (free : s.phase = .free) : s.at' .free = s := by
  obtain ⟨phase, depth, shown⟩ := s
  cases free
  rfl

def MayPerform (s : Standing h) : Op h → Prop
  | .takeId => s.phase = .free
  | .insert _ e => s.phase = .issued e.id
  | .retire _ => s.phase = .free
  | .removeAll name ids =>
    (s.phase = .clearing ids ∧ ∀ i ∈ ids, ∃ e, (name, e) ∈ s.shown ∧ e.id = i) ∨
      ∃ id, s.phase = .retiring id ∧ ids = [id]
  | .snapshot _ => s.phase = .free
  | .claim e => s.phase = .free ∧ 0 < s.depth ∧ s.Knows e
  | .release e => s.MayRun e
  | .spent es => s.phase = .free ∧ 0 < s.depth ∧ ∀ e ∈ es, s.Knows e
  | .enqueue (.listener e _ _) => s.MayRun e
  | _ => True

def MayCall (s : Standing h) : Call h → Prop
  | .listener e _ _ => s.phase = .entrusted e ∨ s.MayRun e
  | .interceptor _ next _ _ => s.phase = .free ∧ 0 < s.depth ∧ ∀ e ∈ next.entries, s.Knows e

/-- Application code ends every delivery that it begins. -/
structure Leads (s t : Standing h) : Prop where
  phase : t.phase = s.phase
  depth : t.depth = s.depth
  shown : s.shown ⊆ t.shown

/-- How claims are made: a `once` entry is run or given back by the thread that holds the claim on it,
and a thread takes out what it found spent before it does anything else. -/
def claiming : Protocol h (Standing h) where
  rest := rest
  after := after
  Calm s := s.phase = .free
  MayPerform := MayPerform
  MayCall := MayCall
  Answers
    | .spent es, ids => ∀ i ∈ ids, ∃ e ∈ es, e.id = i
    | _, _ => True
  Leads := Leads
  after_ended _ := rfl
  leads_refl _ := ⟨rfl, rfl, List.Subset.refl _⟩
  leads_trans hs ht :=
    ⟨ht.phase.trans hs.phase, ht.depth.trans hs.depth, fun _ hx => ht.shown (hs.shown hx)⟩
  calm_of_leads hs ht := ht.phase.trans hs
  calm_of_mayCall {s c} hc := by
    cases c with
    | listener e ctx event => rfl
    | interceptor i next ctx event => exact hc.1

end Standing
end EventDispatch
