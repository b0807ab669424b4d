import EventDispatch.Proofs.Delivery.Steps
import EventDispatch.Proofs.Once.Deliveries

namespace EventDispatch

variable {h : Host} {α β : Type}

/-- A delivery that has begun and not ended. -/
structure Frame (h : Host) where
  /-- Its snapshot. -/
  entries : List (Entry h)
  /-- The ids of the `once` entries that were claimed for it and not given back. -/
  owed : List Nat

namespace Frame

def onTop (change : List Nat → List Nat) : List (Frame h) → List (Frame h)
  | [] => []
  | f :: rest => { f with owed := change f.owed } :: rest

def after (fs : List (Frame h)) : Occurrence h → List (Frame h)
  | .performed (.snapshot _) a => ⟨a.entries, []⟩ :: fs
  | .performed (.claim e) granted => if e.options.once && granted then onTop (e.id :: ·) fs else fs
  | .performed (.release e) _ => if e.options.once then onTop (·.filter (· != e.id)) fs else fs
  | .performed (.spent _) _ => fs.tail
  | .ended => []
  | _ => fs

def shape (fs : List (Frame h)) : List (List (Entry h)) := fs.map (·.entries)

theorem shape_onTop (change : List Nat → List Nat) (fs : List (Frame h)) :
    shape (onTop change fs) = shape fs := by
  cases fs <;> rfl

theorem shape_after_claim (fs : List (Frame h)) (e : Entry h) (granted : Bool) :
    shape (after fs (.performed (.claim e) granted)) = shape fs := by
  simp only [after]
  split
  · exact shape_onTop _ _
  · rfl

theorem shape_after_release (fs : List (Frame h)) (e : Entry h) :
    shape (after fs (.performed (.release e) ())) = shape fs := by
  simp only [after]
  split
  · exact shape_onTop _ _
  · rfl

def MayPerform (fs : List (Frame h)) : Op h → Prop
  | .claim e => ∃ es, (shape fs).head? = some es ∧ e ∈ es
  | .spent es => (shape fs).head? = some es
  | _ => True

def MayCall (fs : List (Frame h)) : Call h → Prop
  | .listener _ _ _ => True
  | .interceptor _ next _ _ => ∃ es, (shape fs).head? = some es ∧ next.entries ⊆ es

/-- How deliveries nest. Application code may panic anywhere, and otherwise ends what it begins. -/
def nesting : Protocol h (List (Frame h)) where
  rest := []
  after := after
  Calm _ := True
  MayPerform := MayPerform
  MayCall := MayCall
  Answers _ _ := True
  Leads s t := shape t = shape s
  after_ended _ := rfl
  leads_refl _ := rfl
  leads_trans hs ht := ht.trans hs
  calm_of_leads _ _ := trivial
  calm_of_mayCall _ := trivial

end Frame

def Op.IsAside : Op h → Prop
  | .snapshot _ => False
  | .claim _ => False
  | .release _ => False
  | .spent _ => False
  | _ => True

namespace Frame

variable {o : Op h}

theorem mayPerform_aside (fs : List (Frame h)) (aside : o.IsAside) : MayPerform fs o := by
  cases o with
  | _ => first | exact aside.elim | trivial

theorem after_aside (fs : List (Frame h)) (aside : o.IsAside) (a : o.Answer) :
    after fs (.performed o a) = fs := by
  cases o with
  | _ => first | exact aside.elim | rfl

end Frame

namespace Program

open EventDispatch.Frame

def IsAside (p : Program h α) : Prop := p.Keeps (.only Op.IsAside fun _ => False) () fun _ _ => True

theorem IsPlain.isAside {p : Program h α} (plain : p.IsPlain) : p.IsAside := by
  induction p with
  | done a => trivial
  | panic e => exact plain.elim
  | perform o next ih =>
    refine ⟨?_, fun a _ => ih a (plain.2 a)⟩
    have own := plain.1
    cases o with
    | _ => first | exact own.elim | trivial
  | call c next => exact plain.elim

/-- Such programs leave the deliveries of their thread as they are. -/
theorem IsAside.keeps {p : Program h α} (aside : p.IsAside) (fs : List (Frame h)) :
    p.Keeps nesting fs fun gs _ => gs = fs := by
  induction p with
  | done a => rfl
  | panic e => trivial
  | perform o next ih =>
    refine ⟨mayPerform_aside fs aside.1, fun a _ => ?_⟩
    show (next a).Keeps nesting (after fs _) _
    rw [after_aside fs aside.1]
    exact ih a (aside.2 a trivial)
  | call c next => exact aside.1.elim

theorem IsAside.returns {p : Program h α} (aside : p.IsAside) (fs : List (Frame h)) :
    p.Keeps nesting fs (nesting.Returns fs) :=
  keeps_mono (aside.keeps fs) fun _ _ same => congrArg shape same

/-- A program in front of another, which leaves the deliveries as they are. -/
theorem IsAside.keeps_bind {p : Program h α} {f : α → Program h β} {fs : List (Frame h)}
    {Q : List (Frame h) → β → Prop} (aside : p.IsAside) (hf : ∀ a, (f a).Keeps nesting fs Q) :
    (p.bind f).Keeps nesting fs Q := by
  apply Program.keeps_bind.2
  apply keeps_mono (aside.keeps fs)
  rintro _ a rfl
  exact hf a

end Program

namespace Delivery

open Program EventDispatch.Frame

variable {fs : List (Frame h)}

theorem isAside_spawn (name : String) (kind : WorkKind) (job : Job h) :
    (spawn name kind job).IsAside := by
  apply keeps_bind.2
  have submits : (submit job).IsAside := by
    apply keeps_only_mono (submit_keeps job)
    · intro o step
      cases step <;> trivial
    · exact fun _ called => called
  apply keeps_mono submits
  intro _ r _
  cases r with
  | ok u => trivial
  | error e => exact ⟨trivial, fun _ _ => trivial⟩

theorem nests_spawnListener (ctx : Context) (e : Entry h) (event : Event) :
    (spawnListener ctx e event).Keeps nesting fs (nesting.Returns fs) := by
  refine ⟨trivial, fun settings _ => ?_⟩
  simp only [done_bind]
  split
  · refine ⟨trivial, fun gs same r => ?_⟩
    have told := (isPlain_logListenerFailure (h := h) e.id event r).isAside.keeps gs
    exact keeps_mono told fun _ _ still => still ▸ same
  · apply (isAside_spawn event.name .listener _).keeps_bind
    intro accepted
    cases accepted with
    | true => exact nesting.leads_refl fs
    | false => exact ⟨trivial, fun _ _ => shape_after_release fs e⟩

theorem nests_callListeners (dispatched : Event) (ctx : Context) (event : Event)
    {es all : List (Entry h)} (inside : (shape fs).head? = some all) (listed : es ⊆ all) :
    (callListeners dispatched ctx event es).Keeps nesting fs (nesting.Returns fs) := by
  induction es generalizing fs with
  | nil => exact nesting.leads_refl fs
  | cons e rest ih =>
    -- The rest is called from wherever this entry leaves the thread, which is in the same deliveries.
    have go : ∀ gs, shape gs = shape fs →
        (callListeners dispatched ctx event rest).Keeps nesting gs (nesting.Returns fs) := by
      intro gs same
      have here : (shape gs).head? = some all := same ▸ inside
      have called := ih here (List.subset_of_cons_subset listed)
      exact keeps_mono called fun _ _ still => still.trans same
    refine ⟨⟨all, inside, listed List.mem_cons_self⟩, fun granted _ => ?_⟩
    have claimed := shape_after_claim fs e granted
    simp only [done_bind]
    split
    · split
      · apply keeps_bind.2
        apply keeps_mono (nests_spawnListener ctx e dispatched)
        intro gs _ same
        exact go gs (same.trans claimed)
      · refine ⟨trivial, fun gs same r => ?_⟩
        have back := same.trans claimed
        cases r with
        | ok u => exact go gs back
        | error e => exact back
    · exact go _ claimed

theorem nests_proceed {next : Next h} {all : List (Entry h)} (ctx : Context) (event : Event)
    (inside : (shape fs).head? = some all) (listed : next.entries ⊆ all) :
    (proceed next ctx event).Keeps nesting fs (nesting.Returns fs) := by
  unfold proceed
  split
  · exact nests_callListeners _ _ _ inside listed
  · exact ⟨⟨all, inside, listed⟩, fun _ same _ => same⟩

theorem nests_deliver (ctx : Context) (event : Event) :
    (deliver ctx event).Keeps nesting fs (nesting.Returns fs) := by
  refine ⟨trivial, fun snapshot _ => ?_⟩
  simp only [done_bind]
  have began : (shape (⟨snapshot.entries, []⟩ :: fs)).head? = some snapshot.entries := rfl
  apply keeps_bind.2
  apply keeps_mono (nests_proceed ctx event began (List.Subset.refl _))
  intro gs r same
  have inside : (shape gs).head? = some snapshot.entries := by
    rw [same]
    rfl
  have left : shape gs.tail = shape fs := by
    rw [shape, List.map_tail, ← shape, same]
    rfl
  refine ⟨inside, fun ids _ => ?_⟩
  simp only [done_bind]
  split
  · exact ⟨trivial, fun _ _ => left⟩
  · exact left

theorem nests_dispatch (ctx : Context) (event : Option Event) (options : DispatchOptions) :
    (dispatch ctx event options).Keeps nesting fs (nesting.Returns fs) := by
  cases event with
  | none => exact nesting.leads_refl fs
  | some event =>
    apply (isPlain_routeFor event options).isAside.keeps_bind
    intro route
    simp only []
    split
    · exact nesting.leads_refl fs
    · split
      · exact nests_deliver _ _
      · exact (isAside_spawn _ _ _).keeps_bind fun _ => nesting.leads_refl fs
      · exact (isPlain_deliverExternal _ _ _).isAside.returns fs

theorem nests_dispatchEnvelope (ctx : Context) (envelope : Envelope) :
    (dispatchEnvelope ctx envelope).Keeps nesting fs (nesting.Returns fs) := by
  refine ⟨trivial, fun types _ => ?_⟩
  simp only [done_bind]
  split
  · exact nesting.leads_refl fs
  · exact nests_dispatch _ _ _

theorem nests_receive (ctx : Context) (bytes : Bytes) :
    (receive ctx bytes).Keeps nesting fs (nesting.Returns fs) := by
  unfold receive
  split
  · exact nesting.leads_refl fs
  · exact nests_dispatchEnvelope _ _

theorem nests_consume (ctx : Context) (m : Message) :
    (consume ctx m).Keeps nesting fs (nesting.Returns fs) := by
  unfold consume
  split
  · exact nesting.leads_refl fs
  · exact keeps_bind.2 (keeps_mono (nests_dispatchEnvelope _ _) fun _ _ same => same)

end Delivery

namespace Frame

open Program Control Delivery

theorem isAside_subscribe (name : String) (handler : Handler h) (options : ListenOptions) :
    (subscribe name handler options).IsAside := by
  unfold subscribe
  split
  · exact ⟨trivial, fun _ _ => trivial⟩
  · exact ⟨trivial, fun _ _ => ⟨trivial, fun _ _ => ⟨trivial, fun _ _ => trivial⟩⟩⟩

theorem isAside_unsubscribe (b : Subscription) : (unsubscribe b : Program h Unit).IsAside := by
  unfold unsubscribe
  split
  · trivial
  · refine ⟨trivial, fun granted _ => ?_⟩
    cases granted with
    | true => exact ⟨trivial, fun _ _ => trivial⟩
    | false => trivial

theorem nesting_serves : (nesting (h := h)).Serves := by
  intro r fs _
  cases r with
  | host o => exact ⟨trivial, fun _ _ => nesting.leads_refl fs⟩
  | subscribe name handler options => exact (isAside_subscribe name handler options).returns fs
  | unsubscribe b => exact (isAside_unsubscribe b).returns fs
  | isActive b => exact (isPlain_isActive b).isAside.returns fs
  | loadRoutes entries => exact (isPlain_loadRoutes entries).isAside.returns fs
  | applyConfig c => exact (isPlain_applyConfig c).isAside.returns fs
  | dispatch ctx event options => exact nests_dispatch ctx event options
  | dispatchEnvelope ctx envelope => exact nests_dispatchEnvelope ctx envelope
  | receive ctx bytes => exact nests_receive ctx bytes
  | consume ctx m => exact nests_consume ctx m
  | stats => exact isPlain_stats.isAside.returns fs
  | shutdown => exact isPlain_shutdown.isAside.returns fs

theorem nests_runInterceptor (app : Application h) (i : Interceptor h) (next : Next h)
    (ctx : Context) (event : Event) {fs : List (Frame h)} {all : List (Entry h)}
    (inside : (shape fs).head? = some all) (listed : next.entries ⊆ all) :
    (app.runInterceptor i next ctx event).Keeps nesting fs (nesting.Returns fs) := by
  apply keeps_bind.2
  apply keeps_mono (Script.program_keeps nesting_serves (app.verdict i ctx event) trivial)
  intro gs v same
  cases v with
  | finish r => exact same
  | proceed ctx event after =>
    have here : (shape gs).head? = some all := same ▸ inside
    apply keeps_bind.2
    apply keeps_mono (nests_proceed ctx event here listed)
    intro gs' r still
    have ended := Script.program_keeps nesting_serves (after r) (s := gs') trivial
    exact keeps_mono ended fun _ _ last => last.trans (still.trans same)

theorem nests_job (job : Job h) :
    job.program.Keeps nesting ([] : List (Frame h)) (nesting.Returns []) := by
  cases job with
  | listener e ctx event =>
    refine ⟨trivial, fun gs same r => ?_⟩
    have told := (isPlain_logListenerFailure (h := h) e.id event r).isAside.keeps gs
    exact keeps_mono told fun _ _ still => still ▸ same
  | dispatch ctx event =>
    apply keeps_bind.2
    apply keeps_mono (nests_deliver ctx event)
    intro gs r same
    cases r with
    | ok u => exact same
    | error e => exact ⟨trivial, fun _ _ => same⟩
  | publish ctx m =>
    refine ⟨trivial, fun r _ => ?_⟩
    cases r with
    | ok u => exact nesting.leads_refl []
    | error e => exact ⟨trivial, fun _ _ => nesting.leads_refl []⟩

/-- Deliveries nest in all that runs, whatever the application does. -/
theorem nesting_upheld (app : Application h) : nesting.Upheld app where
  calm := trivial
  serves := nesting_serves
  bodies fs c may := by
    cases c with
    | listener e ctx event =>
      exact Script.program_keeps nesting_serves (app.runListener e.handler ctx event) trivial
    | interceptor i next ctx event =>
      obtain ⟨all, inside, listed⟩ := may
      exact nests_runInterceptor app i next ctx event inside listed
  jobs job := nests_job job

end Frame
end EventDispatch
