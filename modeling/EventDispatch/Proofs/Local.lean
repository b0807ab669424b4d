import EventDispatch.Proofs.Asked
import EventDispatch.Proofs.Delivery.Steps

namespace EventDispatch

variable {h : Host} {α β : Type}

/-- Answers that tell nothing apart but the routes or the publisher. -/
def Op.Agree : (o : Op h) → o.Answer → o.Answer → Prop
  | .host .table, _, _ => True
  | .host .settings, a, b => a.poolSize = b.poolSize ∧ a.forceSync = b.forceSync
  | _, a, b => a = b

def Op.Publishes : Op h → Prop
  | .publish _ _ => True
  | .enqueue (.publish _ _) => True
  | _ => False

def Op.IsNeutral : Op h → Prop
  | .host .table => False
  | .host .settings => False
  | .publish _ _ => False
  | .enqueue (.publish _ _) => False
  | _ => True

theorem Op.IsNeutral.not_publishes {o : Op h} (neutral : o.IsNeutral) : ¬o.Publishes := by
  unfold Op.Publishes
  split
  · exact neutral.elim
  · exact neutral.elim
  · exact not_false

theorem Op.IsNeutral.eq_of_agree {o : Op h} (neutral : o.IsNeutral) {a b : o.Answer} (agree : o.Agree a b) :
    a = b := by
  unfold Op.Agree at agree
  split at agree
  · exact neutral.elim
  · exact neutral.elim
  · exact agree

/-- Programs that publish nothing, and do not depend on the routes nor on the publisher. What they call
is left open. -/
def Program.IsLocal : Program h α → Prop
  | .done _ => True
  | .panic _ => True
  | .perform o next =>
    ¬o.Publishes ∧ (∀ a b, o.Agree a b → next a = next b) ∧ ∀ a, (next a).IsLocal
  | .call _ next => ∀ r, (next r).IsLocal

namespace Program

theorem isLocal_done (a : α) : (done a : Program h α).IsLocal := trivial

theorem isLocal_perform {o : Op h} {next : o.Answer → Program h α} (neutral : o.IsNeutral)
    (later : ∀ a, (next a).IsLocal) : (perform o next).IsLocal :=
  ⟨neutral.not_publishes, fun _ _ agree => congrArg next (neutral.eq_of_agree agree), later⟩

theorem isLocal_op (o : Op h) (neutral : o.IsNeutral) : (op o).IsLocal :=
  isLocal_perform neutral isLocal_done

theorem isLocal_log (n : Notice) : (log n : Program h Unit).IsLocal :=
  isLocal_op (.host (.log n)) trivial

theorem IsLocal.bind {p : Program h α} {f : α → Program h β} (hp : p.IsLocal)
    (hf : ∀ a, (f a).IsLocal) : (p.bind f).IsLocal := by
  induction p with
  | done a => exact hf a
  | panic e => trivial
  | perform o next ih =>
    obtain ⟨quiet, blind, later⟩ := hp
    exact ⟨quiet, fun a b agree => congrArg (·.bind f) (blind a b agree), fun a => ih a (later a)⟩
  | call c next ih => exact fun r => ih r (hp r)

/-- A program that looks up the settings for their other parts only. -/
theorem isLocal_settings {next : Settings → Program h α}
    (blind : ∀ a b, a.poolSize = b.poolSize → a.forceSync = b.forceSync → next a = next b)
    (later : ∀ a, (next a).IsLocal) : (perform (.host .settings) next).IsLocal :=
  ⟨id, fun a b agree => blind a b agree.1 agree.2, later⟩

theorem isLocal_of_keeps {mayCall : Call h → Prop} {p : Program h α} {Q : Unit → α → Prop}
    (keeps : p.Keeps (.only Op.IsNeutral mayCall) () Q) : p.IsLocal := by
  induction p with
  | done a => trivial
  | panic e => trivial
  | perform o next ih => exact isLocal_perform keeps.1 fun a => ih a (keeps.2 a trivial)
  | call c next ih => exact fun r => ih r (keeps.2 () trivial r)

end Program

namespace Delivery

open Program

theorem isLocal_submit (job : Job h) (own : (Op.enqueue job).IsNeutral) : (submit job).IsLocal := by
  refine isLocal_of_keeps (keeps_only_mono (submit_keeps job) (fun o step => ?_) fun _ called => called)
  cases step with
  | enqueue => exact own
  | _ => trivial

theorem isLocal_spawn (event : String) (kind : WorkKind) (job : Job h)
    (own : (Op.enqueue job).IsNeutral) : (spawn event kind job).IsLocal := by
  apply (isLocal_submit job own).bind
  intro r
  cases r with
  | ok u => exact isLocal_done _
  | error e => exact (isLocal_log _).bind fun _ => isLocal_done _

theorem isLocal_logListenerFailure (id : Nat) (event : Event) (r : ListenerResult) :
    (logListenerFailure id event r : Program h Unit).IsLocal := by
  unfold logListenerFailure
  split
  · exact isLocal_done _
  · exact isLocal_done _
  · exact isLocal_log _

theorem isLocal_spawnListener (ctx : Context) (e : Entry h) (event : Event) :
    (spawnListener ctx e event).IsLocal := by
  refine isLocal_settings (fun a b _ same => ?_) fun settings => ?_
  · simp only [done_bind, same]
  simp only [done_bind]
  split
  · exact fun r => isLocal_logListenerFailure e.id event r
  · apply (isLocal_spawn event.name .listener (.listener e ctx event) trivial).bind
    intro accepted
    cases accepted with
    | true => exact isLocal_done _
    | false => exact isLocal_op (.release e) trivial

theorem isLocal_callListeners (dispatched : Event) (ctx : Context) (event : Event)
    (es : List (Entry h)) : (callListeners dispatched ctx event es).IsLocal := by
  induction es with
  | nil => exact isLocal_done _
  | cons e rest ih =>
    refine isLocal_perform trivial fun granted => ?_
    simp only [done_bind]
    split
    · split
      · exact (isLocal_spawnListener ctx e dispatched).bind fun _ => ih
      · intro r
        cases r with
        | ok u => exact ih
        | error e => exact isLocal_done _
    · exact ih

theorem isLocal_proceed (next : Next h) (ctx : Context) (event : Event) :
    (proceed next ctx event).IsLocal := by
  unfold proceed
  split
  · exact isLocal_callListeners _ _ _ _
  · exact isLocal_done

theorem isLocal_deliver (ctx : Context) (event : Event) :
    (deliver ctx event : Program h DispatchResult).IsLocal := by
  refine isLocal_perform trivial fun snapshot => ?_
  apply (isLocal_proceed _ ctx event).bind
  intro r
  refine isLocal_perform trivial fun ids => ?_
  simp only [done_bind]
  split
  · exact (isLocal_op (.removeAll event.name ids) trivial).bind fun _ => isLocal_done _
  · exact isLocal_done _

/-- Told to stay in memory, a dispatch does not look up the routes. -/
theorem isLocal_dispatch (ctx : Context) (event : Option Event) {options : DispatchOptions}
    (memory : options.driver = some .memory) :
    (dispatch ctx event options : Program h DispatchResult).IsLocal := by
  obtain ⟨driver, topic, key, asynchronous, trace⟩ := options
  cases memory
  cases event with
  | none => exact isLocal_done _
  | some event =>
    cases asynchronous with
    | false => exact isLocal_deliver _ event
    | true =>
      apply (isLocal_spawn event.name .dispatch (.dispatch _ event) trivial).bind
      exact fun _ => isLocal_done _

theorem isLocal_dispatchEnvelope (ctx : Context) (envelope : Envelope) :
    (dispatchEnvelope ctx envelope : Program h DispatchResult).IsLocal := by
  refine isLocal_perform trivial fun types => ?_
  simp only [done_bind]
  split
  · exact isLocal_done _
  · exact isLocal_dispatch _ _ rfl

theorem isLocal_receive (ctx : Context) (bytes : Bytes) :
    (receive ctx bytes : Program h DispatchResult).IsLocal := by
  unfold receive
  split
  · exact isLocal_done _
  · exact isLocal_dispatchEnvelope _ _

theorem isLocal_consume (ctx : Context) (m : Message) :
    (consume ctx m : Program h (Except ConsumeError Unit)).IsLocal := by
  unfold consume
  split
  · exact isLocal_done _
  · exact (isLocal_dispatchEnvelope _ _).bind fun _ => isLocal_done _

end Delivery

namespace Control

open Program

theorem isLocal_subscribe (name : String) (handler : Handler h) (options : ListenOptions) :
    (subscribe name handler options).IsLocal := by
  unfold subscribe
  split
  · exact (isLocal_log _).bind fun _ => isLocal_done _
  · refine isLocal_perform trivial fun _ => ?_
    refine (isLocal_op (.insert name _) trivial).bind fun _ => ?_
    exact (isLocal_log _).bind fun _ => isLocal_done _

theorem isLocal_unsubscribe (s : Subscription) : (unsubscribe s : Program h Unit).IsLocal := by
  unfold unsubscribe
  split
  · exact isLocal_done _
  · refine isLocal_perform trivial fun granted => ?_
    cases granted with
    | true => exact isLocal_op (.removeAll s.name [s.id]) trivial
    | false => exact isLocal_done _

theorem isLocal_isActive (s : Subscription) : (isActive s : Program h Bool).IsLocal := by
  unfold isActive
  split
  · exact isLocal_done _
  · refine isLocal_perform trivial fun retired => ?_
    cases retired with
    | true => exact isLocal_done _
    | false => exact isLocal_op (.contains s.name s.id) trivial

theorem isLocal_loadRoutes (es : List (String × Route)) :
    (loadRoutes es : Program h Unit).IsLocal := by
  have skips : ∀ ps : List String, (logSkipped ps : Program h Unit).IsLocal := by
    intro ps
    induction ps with
    | nil => exact isLocal_done _
    | cons p rest ih => exact (isLocal_log _).bind fun _ => ih
  exact (skips _).bind fun _ => (isLocal_log _).bind fun _ => isLocal_op (.loadTable _) trivial

/-- The settings are compared in what cannot change, which the publisher is not. -/
theorem isLocal_applyConfig (c : Config) :
    (applyConfig c : Program h (Except ConfigError Unit)).IsLocal := by
  unfold applyConfig
  split
  · exact isLocal_done _
  · have loads := (isLocal_loadRoutes (h := h) c.routes.entries).bind
      fun _ => isLocal_done (Except.ok () : Except ConfigError Unit)
    refine isLocal_settings (fun a b size force => ?_) fun settings => ?_
    · simp only [done_bind, size, force]
    simp only [done_bind]
    split
    · exact (isLocal_log _).bind fun _ => loads
    · exact loads

theorem isLocal_stats : (stats : Program h PoolStats).IsLocal := by
  refine isLocal_perform trivial fun _ => isLocal_perform trivial fun _ => ?_
  exact isLocal_perform trivial fun _ => isLocal_perform trivial fun _ => isLocal_done _

theorem isLocal_shutdown : (shutdown : Program h Unit).IsLocal := by
  refine isLocal_perform trivial fun _ => ?_
  refine isLocal_perform trivial fun _ => ?_
  refine isLocal_perform trivial fun granted => ?_
  cases granted with
  | true => exact isLocal_perform trivial fun _ => isLocal_log _
  | false => exact isLocal_log _

end Control

def Request.IsLocal : Request h → Prop
  | .host o => (Op.host o).IsNeutral
  | .dispatch _ _ options => options.driver = some .memory
  | _ => True

theorem Request.IsLocal.program {r : Request h} (own : r.IsLocal) : r.program.IsLocal := by
  cases r with
  | host o => exact Program.isLocal_op (.host o) own
  | subscribe name handler options => exact Control.isLocal_subscribe name handler options
  | unsubscribe s => exact Control.isLocal_unsubscribe s
  | isActive s => exact Control.isLocal_isActive s
  | loadRoutes entries => exact Control.isLocal_loadRoutes entries
  | applyConfig c => exact Control.isLocal_applyConfig c
  | dispatch ctx event options => exact Delivery.isLocal_dispatch ctx event own
  | dispatchEnvelope ctx envelope => exact Delivery.isLocal_dispatchEnvelope ctx envelope
  | receive ctx bytes => exact Delivery.isLocal_receive ctx bytes
  | consume ctx m => exact Delivery.isLocal_consume ctx m
  | stats => exact Control.isLocal_stats
  | shutdown => exact Control.isLocal_shutdown

def Application.IsLocal (app : Application h) : Prop := app.AsksOnly Request.IsLocal

theorem Script.AsksOnly.bind_isLocal {Q : α → Prop} {p : Script h α}
    (asks : p.AsksOnly Request.IsLocal Q) {f : α → Program h β}
    (hf : ∀ a, Q a → (f a).IsLocal) : (p.program.bind f).IsLocal := by
  induction p with
  | done a => exact hf a asks
  | panic e => trivial
  | request r next ih =>
    rw [Script.program, Program.bind_assoc]
    exact asks.1.program.bind fun a => ih a (asks.2 a)

theorem Script.AsksOnly.isLocal {Q : α → Prop} {p : Script h α}
    (asks : p.AsksOnly Request.IsLocal Q) : p.program.IsLocal := by
  rw [← Program.bind_done p.program]
  exact asks.bind_isLocal fun a _ => Program.isLocal_done a

end EventDispatch
