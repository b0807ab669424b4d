import EventDispatch.Proofs.Course

namespace EventDispatch

variable {h : Host} {α β : Type}

inductive Stage where
  | free
  /-- It saw that the pool was open, and has yet to offer its job. -/
  | cleared
  /-- The queue accepted its job, which it has yet to count. -/
  | accepted
  /-- The queue refused its job, which it has yet to count. -/
  | refused
  /-- It closed the queue, and has yet to ask for the right to wait. -/
  | closing
  /-- It has the right to wait for the workers. -/
  | waiting
deriving DecidableEq

namespace Stage

/-- The stage that a step leads to. All steps but these are taken where nothing is left to do. -/
def after : Occurrence h → Stage
  | .performed .isClosed closed => if closed then .free else .cleared
  | .performed (.enqueue _) (.ok _) => .accepted
  | .performed (.enqueue _) (.error _) => .refused
  | .performed .sealQueue _ => .closing
  | .performed .join granted => if granted then .waiting else .free
  | _ => .free

def MayPerform (s : Stage) : Op h → Prop
  | .enqueue _ => s = .cleared
  | .settle c => s = .accepted ∧ c = .submitted ∨ s = .refused ∧ c = .rejected
  | .join => s = .closing
  | .awaitDrained => s = .waiting
  | .tally c => s = .free ∧ c = .rejected
  | _ => s = .free

/-- A job is offered by a thread that saw the pool open just before, and counted by the same thread
just after. Who closes the queue asks for the right to wait for the workers, and waits when given it. -/
def offering : Protocol h Stage where
  rest := .free
  after _ := after
  Calm s := s = .free
  MayPerform := MayPerform
  MayCall s _ := s = .free
  Answers _ _ := True
  Leads s t := t = s
  after_ended _ := rfl
  leads_refl _ := rfl
  leads_trans hs ht := ht.trans hs
  calm_of_leads hs ht := ht.trans hs
  calm_of_mayCall _ := rfl

end Stage

namespace Program

open Stage

def Offers (p : Program h α) : Prop := p.Keeps offering .free fun s _ => s = .free

theorem Offers.bind {p : Program h α} {f : α → Program h β} (hp : p.Offers)
    (hf : ∀ a, (f a).Offers) : (p.bind f).Offers := by
  apply keeps_bind.2
  apply keeps_mono hp
  rintro _ a rfl
  exact hf a

theorem offers_done (a : α) : (Program.done a : Program h α).Offers := rfl

theorem offers_log (n : Notice) : (log n : Program h Unit).Offers := ⟨rfl, fun _ _ => rfl⟩

end Program

namespace Delivery

open Program

theorem offers_submit (job : Job h) : (submit job).Offers := by
  refine ⟨rfl, fun closed _ => ?_⟩
  cases closed with
  | true => exact ⟨⟨rfl, rfl⟩, fun _ _ => rfl⟩
  | false =>
    refine ⟨rfl, fun r _ => ?_⟩
    cases r with
    | ok u => exact ⟨.inl ⟨rfl, rfl⟩, fun _ _ => rfl⟩
    | error e => exact ⟨.inr ⟨rfl, rfl⟩, fun _ _ => rfl⟩

theorem offers_spawn (event : String) (kind : WorkKind) (job : Job h) :
    (spawn event kind job).Offers := by
  refine (offers_submit job).bind fun r => ?_
  cases r with
  | ok u => exact offers_done true
  | error e => exact (offers_log _).bind fun _ => offers_done false

theorem offers_logListenerFailure (id : Nat) (event : Event) (r : ListenerResult) :
    (logListenerFailure id event r : Program h Unit).Offers := by
  unfold logListenerFailure
  split
  · exact offers_done ()
  · exact offers_done ()
  · exact offers_log _

theorem offers_listen (e : Entry h) (ctx : Context) (event : Event) :
    (listen e ctx event).Offers := ⟨rfl, fun _ same _ => same⟩

theorem offers_spawnListener (ctx : Context) (e : Entry h) (event : Event) :
    (spawnListener ctx e event).Offers := by
  refine ⟨rfl, fun settings _ => ?_⟩
  simp only [done_bind]
  split
  · exact (offers_listen e ctx event).bind fun r => offers_logListenerFailure e.id event r
  · refine (offers_spawn event.name .listener _).bind fun accepted => ?_
    cases accepted with
    | true => exact offers_done ()
    | false => exact ⟨rfl, fun _ _ => rfl⟩

theorem offers_callListeners (dispatched : Event) (ctx : Context) (event : Event)
    (es : List (Entry h)) : (callListeners dispatched ctx event es).Offers := by
  induction es with
  | nil => exact offers_done _
  | cons e rest ih =>
    refine ⟨rfl, fun granted _ => ?_⟩
    simp only [done_bind]
    split
    · split
      · exact (offers_spawnListener ctx e dispatched).bind fun _ => ih
      · refine (offers_listen e ctx event).bind fun r => ?_
        cases r with
        | ok u => exact ih
        | error e => exact offers_done _
    · exact ih

theorem offers_proceed (next : Next h) (ctx : Context) (event : Event) :
    (proceed next ctx event).Offers := by
  unfold proceed
  split
  · exact offers_callListeners _ _ _ _
  · exact ⟨rfl, fun _ same _ => same⟩

theorem offers_deliver (ctx : Context) (event : Event) :
    (deliver ctx event : Program h DispatchResult).Offers := by
  refine ⟨rfl, fun snapshot _ => ?_⟩
  refine (offers_proceed _ ctx event).bind fun r => ⟨rfl, fun ids _ => ?_⟩
  simp only [done_bind]
  split
  · exact ⟨rfl, fun _ _ => rfl⟩
  · exact offers_done _

theorem offers_deliverExternal (ctx : Context) (event : Event) (plan : DispatchPlan) :
    (deliverExternal ctx event plan : Program h DispatchResult).Offers := by
  refine ⟨rfl, fun settings _ => ?_⟩
  simp only [done_bind]
  split
  · exact offers_done _
  · split
    · exact offers_done _
    · refine ⟨rfl, fun now _ => ?_⟩
      simp only [done_bind]
      split
      · exact offers_done _
      · refine ⟨rfl, fun id _ => ?_⟩
        simp only [done_bind]
        split
        · exact (offers_spawn _ _ _).bind fun _ => offers_done _
        · exact ⟨rfl, fun _ _ => rfl⟩

theorem offers_routeFor (event : Event) (options : DispatchOptions) :
    (routeFor event options : Program h (Option Route)).Offers := by
  unfold routeFor
  split
  · exact offers_done _
  · exact ⟨rfl, fun _ _ => rfl⟩

theorem offers_dispatch (ctx : Context) (event : Option Event) (options : DispatchOptions) :
    (dispatch ctx event options : Program h DispatchResult).Offers := by
  cases event with
  | none => exact offers_done _
  | some event =>
    refine (offers_routeFor event options).bind fun route => ?_
    simp only []
    split
    · exact offers_done _
    · split
      · exact offers_deliver _ _
      · exact (offers_spawn _ _ _).bind fun _ => offers_done _
      · exact offers_deliverExternal _ _ _

theorem offers_dispatchEnvelope (ctx : Context) (envelope : Envelope) :
    (dispatchEnvelope ctx envelope : Program h DispatchResult).Offers := by
  refine ⟨rfl, fun types _ => ?_⟩
  simp only [done_bind]
  split
  · exact offers_done _
  · exact offers_dispatch _ _ _

theorem offers_receive (ctx : Context) (bytes : Bytes) :
    (receive ctx bytes : Program h DispatchResult).Offers := by
  unfold receive
  split
  · exact offers_done _
  · exact offers_dispatchEnvelope _ _

theorem offers_consume (ctx : Context) (m : Message) :
    (consume ctx m : Program h (Except ConsumeError Unit)).Offers := by
  unfold consume
  split
  · exact offers_done _
  · exact (offers_dispatchEnvelope _ _).bind fun _ => offers_done _

end Delivery

namespace Control

open Program

theorem offers_subscribe (name : String) (handler : Handler h) (options : ListenOptions) :
    (subscribe name handler options).Offers := by
  unfold subscribe
  split
  · exact (offers_log _).bind fun _ => offers_done _
  · exact ⟨rfl, fun _ _ => ⟨rfl, fun _ _ => ⟨rfl, fun _ _ => rfl⟩⟩⟩

theorem offers_unsubscribe (b : Subscription) : (unsubscribe b : Program h Unit).Offers := by
  unfold unsubscribe
  split
  · exact offers_done _
  · refine ⟨rfl, fun granted _ => ?_⟩
    cases granted with
    | true => exact ⟨rfl, fun _ _ => rfl⟩
    | false => exact offers_done _

theorem offers_isActive (b : Subscription) : (isActive b : Program h Bool).Offers := by
  unfold isActive
  split
  · exact offers_done _
  · refine ⟨rfl, fun retired _ => ?_⟩
    cases retired with
    | true => exact offers_done _
    | false => exact ⟨rfl, fun _ _ => rfl⟩

theorem offers_logSkipped (ps : List String) : (logSkipped ps : Program h Unit).Offers := by
  induction ps with
  | nil => exact offers_done _
  | cons p rest ih => exact (offers_log _).bind fun _ => ih

theorem offers_loadRoutes (es : List (String × Route)) :
    (loadRoutes es : Program h Unit).Offers :=
  (offers_logSkipped _).bind fun _ => (offers_log _).bind fun _ => ⟨rfl, fun _ _ => rfl⟩

theorem offers_applyConfig (c : Config) :
    (applyConfig c : Program h (Except ConfigError Unit)).Offers := by
  unfold applyConfig
  split
  · exact offers_done _
  · refine ⟨rfl, fun settings _ => ?_⟩
    simp only [done_bind]
    have loads := (offers_loadRoutes (h := h) c.routes.entries).bind
      fun _ => offers_done (Except.ok () : Except ConfigError Unit)
    split
    · exact (offers_log _).bind fun _ => loads
    · exact loads

theorem offers_stats : (stats : Program h PoolStats).Offers :=
  ⟨rfl, fun _ _ => ⟨rfl, fun _ _ => ⟨rfl, fun _ _ => ⟨rfl, fun _ _ => rfl⟩⟩⟩⟩

theorem offers_shutdown : (shutdown : Program h Unit).Offers := by
  refine ⟨rfl, fun _ _ => ⟨rfl, fun _ _ => ⟨rfl, fun granted _ => ?_⟩⟩⟩
  cases granted with
  | true => exact ⟨rfl, fun _ _ => offers_log _⟩
  | false => exact offers_log _

end Control

namespace Stage

open Program Control Delivery

theorem offers_request (r : Request h) : r.program.Offers := by
  cases r with
  | host o => exact ⟨rfl, fun _ _ => rfl⟩
  | subscribe name handler options => exact offers_subscribe name handler options
  | unsubscribe b => exact offers_unsubscribe b
  | isActive b => exact offers_isActive b
  | loadRoutes entries => exact offers_loadRoutes entries
  | applyConfig c => exact offers_applyConfig c
  | dispatch ctx event options => exact offers_dispatch ctx event options
  | dispatchEnvelope ctx envelope => exact offers_dispatchEnvelope ctx envelope
  | receive ctx bytes => exact offers_receive ctx bytes
  | consume ctx m => exact offers_consume ctx m
  | stats => exact offers_stats
  | shutdown => exact offers_shutdown

theorem offers_script (p : Script h α) : p.program.Offers := by
  induction p with
  | done a => exact offers_done a
  | panic e => exact rfl
  | request r next ih => exact (offers_request r).bind ih

theorem offers_body (app : Application h) (c : Call h) : (app.body c).Offers := by
  cases c with
  | listener e ctx event => exact offers_script _
  | interceptor i next ctx event =>
    refine (offers_script (app.verdict i ctx event)).bind fun v => ?_
    cases v with
    | finish r => exact offers_done r
    | proceed ctx event after => exact (offers_proceed next ctx event).bind fun r => offers_script _

theorem offers_job (job : Job h) : job.program.Offers := by
  cases job with
  | listener e ctx event =>
    exact (offers_listen e ctx event).bind fun r => offers_logListenerFailure e.id event r
  | dispatch ctx event =>
    refine (offers_deliver ctx event).bind fun r => ?_
    cases r with
    | ok u => exact offers_done _
    | error e => exact offers_log _
  | publish ctx m =>
    refine ⟨rfl, fun r _ => ?_⟩
    cases r with
    | ok u => exact offers_done _
    | error e => exact offers_log _

/-- All that a dispatcher runs keeps to the protocol of the pool, whatever the application does. -/
theorem offering_upheld (app : Application h) : offering.Upheld app where
  calm := rfl
  serves r s free := by
    cases free
    exact offers_request r
  bodies s c free := by
    cases free
    exact offers_body app c
  jobs := offers_job

end Stage
end EventDispatch
