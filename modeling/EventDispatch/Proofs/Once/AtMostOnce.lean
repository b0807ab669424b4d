import EventDispatch.Proofs.Once.Claimed

namespace EventDispatch.Course

variable {h : Host} {α : Type} {app : Application h} {s : Course h α}

theorem Reachable.filed (reached : s.Reachable app) : s.account.Filed :=
  reached.account_induct .empty fun _ _ _ deed filed => filed.deed deed

theorem Reachable.claimed (reached : s.Reachable app) : s.account.Claimed :=
  (reached.account_induct (I := fun b => b.Filed ∧ b.Claimed) ⟨.empty, .empty⟩
    fun _ _ _ deed ⟨filed, claimed⟩ => ⟨filed.deed deed, claimed.deed filed deed⟩).2

/-- However deliveries interleave and whatever the pool refuses, the calls of a `once` listener by
deliveries and the jobs that the pool accepted for it are at most one in all. After that one no claim
on it is granted, whatever else was released. -/
theorem once_runs_at_most_once (reached : s.Reachable app) {name : String} {e : Entry h}
    (subscribed : (name, e) ∈ s.ledger.subscribed) (once : e.options.once) :
    s.ledger.invoked.count e.id + s.ledger.accepted.count e.id ≤ 1 ∧
      (e.id ∈ s.ledger.invoked ∨ e.id ∈ s.ledger.accepted →
        (s.world.registry.claim e).1 = false) := by
  have claimed := reached.claimed
  constructor
  · have all := claimed.ran_once (name, e) subscribed once
    rwa [Ledger.ran, List.count_append] at all
  · intro ran
    have mem : e.id ∈ s.world.registry.claimed :=
      claimed.ran_claimed (name, e) subscribed once (Ledger.mem_ran.2 ran)
    simp only [Registry.claim, once, List.contains_iff_mem.2 mem, Bool.not_true, Bool.false_eq_true,
      if_false, if_true]

abbrev silentHost : Host := ⟨Unit, Empty, Empty, Unit, Unit, Empty⟩

def silent : Application silentHost where
  listen _ _ _ := return .ok ()
  intercept i := nomatch i
  run e := nomatch e

def silentEntry : Entry silentHost := ⟨1, .plain (), ⟨0, true, true⟩⟩

def subscriber : Thread × Script silentHost Unit :=
  (.main, do let _ ← Script.ask (.subscribe "n" silentEntry.handler silentEntry.options))

def sender : Thread × Script silentHost Unit :=
  (.main, do
    let _ ← Script.ask (.dispatch .background (some (.raw ⟨"n", ⟨"null"⟩, .epoch, none⟩)) .empty))

def turns (caller count : Nat) : List Move := List.replicate count (.turn (.caller caller))

/-- The first delivery is refused by the pool and gives its claim back, the second is accepted. -/
def retried : Course silentHost Unit :=
  run silent default none () [subscriber, sender, sender]
    (turns 0 3 ++ [.refit 1024 true false] ++ turns 1 9 ++ [.refit 1024 false false] ++ turns 2 10)

theorem silent_listener_runs_at_most_once :
    ("n", silentEntry) ∈ retried.ledger.subscribed ∧ 1 ∈ retried.ledger.accepted ∧
      retried.ledger.invoked.count 1 + retried.ledger.accepted.count 1 ≤ 1 ∧
      (retried.world.registry.claim silentEntry).1 = false := by
  have reached : retried.Reachable silent := reachable_run ..
  have subscribed : ("n", silentEntry) ∈ retried.ledger.subscribed := by decide +kernel
  have accepted : 1 ∈ retried.ledger.accepted := by decide +kernel
  obtain ⟨once, refused⟩ := once_runs_at_most_once reached subscribed (by decide)
  exact ⟨subscribed, accepted, once, refused (.inr accepted)⟩

end EventDispatch.Course
