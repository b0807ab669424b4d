import EventDispatch.Dispatch.Delivery
import EventDispatch.Proofs.Runs

namespace EventDispatch.Delivery

variable {h : Host}

open Program

inductive SubmitStep (job : Job h) : Op h → Prop where
  | isClosed : SubmitStep job .isClosed
  | enqueue : SubmitStep job (.enqueue job)
  | tally (c : Counter) : SubmitStep job (.tally c)
  | settle (c : Counter) : SubmitStep job (.settle c)

theorem submit_keeps (job : Job h) :
    (submit job).Keeps (.only (SubmitStep job) fun _ => False) () fun _ _ => True := by
  refine ⟨.isClosed, fun closed _ => ?_⟩
  cases closed with
  | true => exact ⟨.tally _, fun _ _ => trivial⟩
  | false =>
    refine ⟨.enqueue, fun r _ => ?_⟩
    cases r with
    | ok u => exact ⟨.settle _, fun _ _ => trivial⟩
    | error e => exact ⟨.settle _, fun _ _ => trivial⟩

inductive ListenerStep (es : List (Entry h)) (ctx : Context) (dispatched : Event) : Op h → Prop where
  | settings : ListenerStep es ctx dispatched (.host .settings)
  | log (n : Notice) : ListenerStep es ctx dispatched (.host (.log n))
  | claim {e : Entry h} (listed : e ∈ es) : ListenerStep es ctx dispatched (.claim e)
  | release {e : Entry h} (listed : e ∈ es) : ListenerStep es ctx dispatched (.release e)
  | isClosed : ListenerStep es ctx dispatched .isClosed
  | enqueue {e : Entry h} (listed : e ∈ es) :
      ListenerStep es ctx dispatched (.enqueue (.listener e ctx dispatched))
  | tally (c : Counter) : ListenerStep es ctx dispatched (.tally c)
  | settle (c : Counter) : ListenerStep es ctx dispatched (.settle c)

/-- The calls of these entries' listeners, with either event. -/
inductive ListenerCall (es : List (Entry h)) (ctx : Context) (dispatched event : Event) :
    Call h → Prop where
  | own {e : Entry h} (listed : e ∈ es) : ListenerCall es ctx dispatched event (.listener e ctx event)
  | forced {e : Entry h} (listed : e ∈ es) :
      ListenerCall es ctx dispatched event (.listener e ctx dispatched)

variable {es : List (Entry h)} {e : Entry h} {ctx : Context} {dispatched event : Event}
  {mayCall : Call h → Prop}

abbrev RunsListeners (es : List (Entry h)) (ctx : Context) (dispatched event : Event) {α : Type}
    (p : Program h α) : Prop :=
  p.Keeps (.only (ListenerStep es ctx dispatched) (ListenerCall es ctx dispatched event)) ()
    fun _ _ => True

theorem logListenerFailure_runsListeners (id : Nat) (r : ListenerResult) :
    RunsListeners es ctx dispatched event (logListenerFailure id dispatched r) := by
  unfold logListenerFailure
  split
  · trivial
  · trivial
  · exact ⟨.log _, fun _ _ => trivial⟩

theorem submit_runsListeners (he : e ∈ es) :
    RunsListeners es ctx dispatched event (submit (.listener e ctx dispatched)) := by
  refine keeps_only_mono (submit_keeps _) (fun o step => ?_) fun _ called => called.elim
  cases step with
  | isClosed => exact .isClosed
  | enqueue => exact .enqueue he
  | tally c => exact .tally c
  | settle c => exact .settle c

theorem spawn_runsListeners (he : e ∈ es) (name : String) :
    RunsListeners es ctx dispatched event (spawn name .listener (.listener e ctx dispatched)) := by
  apply keeps_bind.2
  apply keeps_mono (submit_runsListeners he)
  intro _ r _
  cases r with
  | ok u => trivial
  | error e => exact ⟨.log _, fun _ _ => trivial⟩

theorem spawnListener_runsListeners (he : e ∈ es) :
    RunsListeners es ctx dispatched event (spawnListener ctx e dispatched) := by
  refine ⟨.settings, fun settings _ => ?_⟩
  simp only [done_bind]
  split
  · exact ⟨.forced he, fun _ _ r => logListenerFailure_runsListeners e.id r⟩
  · apply keeps_bind.2
    apply keeps_mono (spawn_runsListeners he dispatched.name)
    intro _ accepted _
    cases accepted with
    | true => trivial
    | false => exact ⟨.release he, fun _ _ => trivial⟩

theorem callListeners_runsListeners {rest : List (Entry h)} (sub : rest ⊆ es) :
    RunsListeners es ctx dispatched event (callListeners dispatched ctx event rest) := by
  induction rest with
  | nil => trivial
  | cons e rest ih =>
    have go := ih fun x hx => sub (List.mem_cons_of_mem e hx)
    have he : e ∈ es := sub List.mem_cons_self
    refine ⟨.claim he, fun granted _ => ?_⟩
    simp only [done_bind]
    split
    · split
      · apply keeps_bind.2
        exact keeps_mono (spawnListener_runsListeners he) fun _ _ _ => go
      · refine ⟨.own he, fun _ _ r => ?_⟩
        cases r with
        | ok u => exact go
        | error e => trivial
    · exact go

inductive ClearingStep (name : String) : Op h → Prop where
  | spent (es : List (Entry h)) : ClearingStep name (.spent es)
  | removeAll (ids : List Nat) : ClearingStep name (.removeAll name ids)

variable {app : Application h} {meanwhile : World h → World h → Prop} {t : Thread} {w w' : World h}
  {path : List (Footstep h)} {result : DispatchResult}

/-- A delivery runs the chain and the entries of the snapshot that it begins with, and clears up. -/
theorem runs_deliver (ran : (deliver ctx event).Runs app meanwhile t w path w' result) :
    ∃ w₁ walk w₂ r clearing, path = .performed w (.snapshot event.name) :: (walk ++ clearing) ∧
      (proceed ⟨w.registry.interceptors, w.registry.entries event.name, event⟩ ctx event).Runs app
        meanwhile t w₁ walk w₂ r ∧
      (∀ s ∈ clearing, s.Within (ClearingStep event.name) fun _ => False) ∧
      result = outcome event.name r := by
  obtain ⟨-, w₁, rest, -, rfl, ran₁⟩ := runs_op_bind_iff.1 ran
  obtain ⟨walk, w₂, r, rest, rfl, proceeded, ran₂⟩ := runs_bind_iff.1 ran₁
  obtain ⟨-, w₃, rest, -, rfl, ran₃⟩ := runs_op_bind_iff.1 ran₂
  refine ⟨w₁, walk, w₂, r, _, rfl, proceeded, ?_⟩
  split at ran₃
  · obtain ⟨-, w₄, rest, -, rfl, ran₄⟩ := runs_op_bind_iff.1 ran₃
    obtain ⟨rfl, -, rfl⟩ := runs_done_iff.1 ran₄
    exact ⟨List.forall_mem_cons.2 ⟨.spent _, List.forall_mem_singleton.2 (.removeAll _)⟩, rfl⟩
  · obtain ⟨rfl, -, rfl⟩ := runs_done_iff.1 ran₃
    exact ⟨List.forall_mem_singleton.2 (.spent _), rfl⟩

end EventDispatch.Delivery
