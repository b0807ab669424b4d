import EventDispatch.Proofs.Runs

namespace EventDispatch

variable {h : Host} {α β : Type}

def Op.IsInner : Op h → Prop
  | .host .settings => True
  | .host .table => True
  | .host .types => True
  | .host (.log _) => True
  | .host _ => False
  | _ => True

/-- Programs that take such steps only, and do not panic. What they call is left open. -/
def Program.IsInner : Program h α → Prop
  | .done _ => True
  | .panic _ => False
  | .perform o next => o.IsInner ∧ ∀ a, (next a).IsInner
  | .call _ next => ∀ r, (next r).IsInner

namespace Program

theorem isInner_done (a : α) : (done a : Program h α).IsInner := trivial

theorem isInner_op {o : Op h} (inner : o.IsInner) : (op o).IsInner := ⟨inner, isInner_done⟩

theorem isInner_log (n : Notice) : (log n : Program h Unit).IsInner := isInner_op trivial

theorem IsInner.bind {p : Program h α} {f : α → Program h β} (hp : p.IsInner)
    (hf : ∀ a, (f a).IsInner) : (p.bind f).IsInner := by
  induction p with
  | done a => exact hf a
  | panic e => exact hp.elim
  | perform o next ih => exact ⟨hp.1, fun a => ih a (hp.2 a)⟩
  | call c next ih => exact fun r => ih r (hp r)

/-- They keep to whatever allows all such steps, and all calls. -/
theorem IsInner.keeps {may : Op h → Prop} {p : Program h α} (hp : p.IsInner)
    (steps : ∀ o, o.IsInner → may o) :
    p.Keeps (.only may fun _ => True) () fun _ _ => True := by
  induction p with
  | done a => trivial
  | panic e => exact hp.elim
  | perform o next ih => exact ⟨steps o hp.1, fun a _ => ih a (hp.2 a)⟩
  | call c next ih => exact ⟨trivial, fun _ _ r => ih r (hp r)⟩

end Program

namespace Delivery

open Program

theorem isInner_submit (job : Job h) : (submit job).IsInner := by
  refine ⟨trivial, fun closed => ?_⟩
  cases closed with
  | true => exact ⟨trivial, fun _ => isInner_done _⟩
  | false =>
    refine ⟨trivial, fun r => ?_⟩
    cases r with
    | ok u => exact ⟨trivial, fun _ => isInner_done _⟩
    | error e => exact ⟨trivial, fun _ => isInner_done _⟩

theorem isInner_spawn (event : String) (kind : WorkKind) (job : Job h) :
    (spawn event kind job).IsInner := by
  apply (isInner_submit job).bind
  intro r
  cases r with
  | ok u => exact isInner_done _
  | error e => exact (isInner_log _).bind fun _ => isInner_done _

theorem isInner_logListenerFailure (id : Nat) (event : Event) (r : ListenerResult) :
    (logListenerFailure id event r : Program h Unit).IsInner := by
  unfold logListenerFailure
  split
  · exact isInner_done _
  · exact isInner_done _
  · exact isInner_log _

theorem isInner_spawnListener (ctx : Context) (e : Entry h) (event : Event) :
    (spawnListener ctx e event).IsInner := by
  refine ⟨trivial, fun settings => ?_⟩
  simp only [done_bind]
  split
  · exact fun r => isInner_logListenerFailure e.id event r
  · apply (isInner_spawn event.name .listener _).bind
    intro accepted
    cases accepted with
    | true => exact isInner_done _
    | false => exact isInner_op trivial

theorem isInner_callListeners (dispatched : Event) (ctx : Context) (event : Event)
    (es : List (Entry h)) : (callListeners dispatched ctx event es).IsInner := by
  induction es with
  | nil => exact isInner_done _
  | cons e rest ih =>
    refine ⟨trivial, fun granted => ?_⟩
    simp only [done_bind]
    split
    · split
      · exact (isInner_spawnListener ctx e dispatched).bind fun _ => ih
      · intro r
        cases r with
        | ok u => exact ih
        | error e => exact isInner_done _
    · exact ih

theorem isInner_proceed (next : Next h) (ctx : Context) (event : Event) :
    (proceed next ctx event).IsInner := by
  unfold proceed
  split
  · exact isInner_callListeners _ _ _ _
  · exact isInner_done

theorem isInner_deliver (ctx : Context) (event : Event) :
    (deliver ctx event : Program h DispatchResult).IsInner := by
  refine ⟨trivial, fun snapshot => ?_⟩
  apply (isInner_proceed _ ctx event).bind
  intro r
  refine ⟨trivial, fun ids => ?_⟩
  simp only [done_bind]
  split
  · exact ⟨trivial, fun _ => isInner_done _⟩
  · exact isInner_done _

theorem isInner_deliverExternal (ctx : Context) (event : Event) (plan : DispatchPlan) :
    (deliverExternal ctx event plan : Program h DispatchResult).IsInner := by
  refine ⟨trivial, fun settings => ?_⟩
  simp only [done_bind]
  split
  · exact isInner_done _
  · split
    · exact isInner_done _
    · refine ⟨trivial, fun now => ?_⟩
      simp only [done_bind]
      split
      · exact isInner_done _
      · refine ⟨trivial, fun id => ?_⟩
        simp only [done_bind]
        split
        · exact (isInner_spawn _ _ _).bind fun _ => isInner_done _
        · exact ⟨trivial, fun _ => isInner_done _⟩

theorem isInner_routeFor (event : Event) (options : DispatchOptions) :
    (routeFor event options : Program h (Option Route)).IsInner := by
  unfold routeFor
  split
  · exact isInner_done _
  · exact ⟨trivial, fun _ => isInner_done _⟩

theorem isInner_dispatch (ctx : Context) (event : Option Event) (options : DispatchOptions) :
    (dispatch ctx event options : Program h DispatchResult).IsInner := by
  cases event with
  | none => exact isInner_done _
  | some event =>
    apply (isInner_routeFor event options).bind
    intro route
    simp only []
    split
    · exact isInner_done _
    · split
      · exact isInner_deliver _ _
      · exact (isInner_spawn _ _ _).bind fun _ => isInner_done _
      · exact isInner_deliverExternal _ _ _

theorem isInner_dispatchEnvelope (ctx : Context) (envelope : Envelope) :
    (dispatchEnvelope ctx envelope : Program h DispatchResult).IsInner := by
  refine ⟨trivial, fun types => ?_⟩
  simp only [done_bind]
  split
  · exact isInner_done _
  · exact isInner_dispatch _ _ _

theorem isInner_receive (ctx : Context) (bytes : Bytes) :
    (receive ctx bytes : Program h DispatchResult).IsInner := by
  unfold receive
  split
  · exact isInner_done _
  · exact isInner_dispatchEnvelope _ _

theorem isInner_consume (ctx : Context) (m : Message) :
    (consume ctx m : Program h (Except ConsumeError Unit)).IsInner := by
  unfold consume
  split
  · exact isInner_done _
  · exact (isInner_dispatchEnvelope _ _).bind fun _ => isInner_done _

end Delivery

namespace Control

open Program

theorem isInner_subscribe (name : String) (handler : Handler h) (options : ListenOptions) :
    (subscribe name handler options).IsInner := by
  unfold subscribe
  split
  · exact (isInner_log _).bind fun _ => isInner_done _
  · exact ⟨trivial, fun _ => ⟨trivial, fun _ => (isInner_log _).bind fun _ => isInner_done _⟩⟩

theorem isInner_unsubscribe (s : Subscription) : (unsubscribe s : Program h Unit).IsInner := by
  unfold unsubscribe
  split
  · exact isInner_done _
  · refine ⟨trivial, fun granted => ?_⟩
    cases granted with
    | true => exact isInner_op trivial
    | false => exact isInner_done _

theorem isInner_isActive (s : Subscription) : (isActive s : Program h Bool).IsInner := by
  unfold isActive
  split
  · exact isInner_done _
  · refine ⟨trivial, fun retired => ?_⟩
    cases retired with
    | true => exact isInner_done _
    | false => exact isInner_op trivial

theorem isInner_logSkipped (ps : List String) : (logSkipped ps : Program h Unit).IsInner := by
  induction ps with
  | nil => exact isInner_done _
  | cons p rest ih => exact (isInner_log _).bind fun _ => ih

theorem isInner_loadRoutes (es : List (String × Route)) :
    (loadRoutes es : Program h Unit).IsInner :=
  (isInner_logSkipped _).bind fun _ => (isInner_log _).bind fun _ => isInner_op trivial

theorem isInner_applyConfig (c : Config) :
    (applyConfig c : Program h (Except ConfigError Unit)).IsInner := by
  unfold applyConfig
  split
  · exact isInner_done _
  · have loads := (isInner_loadRoutes (h := h) c.routes.entries).bind
      fun _ => isInner_done (Except.ok () : Except ConfigError Unit)
    refine ⟨trivial, fun settings => ?_⟩
    simp only [done_bind]
    split
    · exact (isInner_log _).bind fun _ => loads
    · exact loads

theorem isInner_stats : (stats : Program h PoolStats).IsInner :=
  ⟨trivial, fun _ => ⟨trivial, fun _ => ⟨trivial, fun _ => ⟨trivial, fun _ => trivial⟩⟩⟩⟩

theorem isInner_shutdown : (shutdown : Program h Unit).IsInner := by
  refine ⟨trivial, fun _ => ⟨trivial, fun _ => ⟨trivial, fun granted => ?_⟩⟩⟩
  cases granted with
  | true => exact ⟨trivial, fun _ => isInner_log _⟩
  | false => exact isInner_log _

end Control

/-- What an application can ask for are steps of its own, and such programs. -/
theorem Request.host_or_isInner (r : Request h) : (∃ o, r = .host o) ∨ r.program.IsInner := by
  cases r with
  | host o => exact .inl ⟨o, rfl⟩
  | subscribe name handler options => exact .inr (Control.isInner_subscribe name handler options)
  | unsubscribe s => exact .inr (Control.isInner_unsubscribe s)
  | isActive s => exact .inr (Control.isInner_isActive s)
  | loadRoutes entries => exact .inr (Control.isInner_loadRoutes entries)
  | applyConfig c => exact .inr (Control.isInner_applyConfig c)
  | dispatch ctx event options => exact .inr (Delivery.isInner_dispatch ctx event options)
  | dispatchEnvelope ctx envelope => exact .inr (Delivery.isInner_dispatchEnvelope ctx envelope)
  | receive ctx bytes => exact .inr (Delivery.isInner_receive ctx bytes)
  | consume ctx m => exact .inr (Delivery.isInner_consume ctx m)
  | stats => exact .inr Control.isInner_stats
  | shutdown => exact .inr Control.isInner_shutdown

end EventDispatch
