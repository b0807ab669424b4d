import EventDispatch.Proofs.Once.Programs

namespace EventDispatch

variable {h : Host}

namespace Delivery

open Program

theorem isPlain_logListenerFailure (id : Nat) (event : Event) (r : ListenerResult) :
    (logListenerFailure id event r : Program h Unit).IsPlain := by
  unfold logListenerFailure
  split
  · trivial
  · trivial
  · exact isPlain_op trivial

theorem isPlain_submit {job : Job h} (hj : (Op.enqueue job).IsPlain) : (submit job).IsPlain := by
  refine ⟨trivial, fun closed => ?_⟩
  cases closed with
  | true => exact ⟨trivial, fun _ => trivial⟩
  | false =>
    refine ⟨hj, fun r => ?_⟩
    cases r with
    | ok u => exact ⟨trivial, fun _ => trivial⟩
    | error e => exact ⟨trivial, fun _ => trivial⟩

theorem isPlain_spawn {job : Job h} (event : String) (kind : WorkKind)
    (hj : (Op.enqueue job).IsPlain) : (spawn event kind job).IsPlain := by
  refine isPlain_bind (isPlain_submit hj) fun r => ?_
  cases r with
  | ok u => trivial
  | error e => exact ⟨trivial, fun _ => trivial⟩

theorem isPlain_deliverExternal (ctx : Context) (event : Event) (plan : DispatchPlan) :
    (deliverExternal ctx event plan : Program h DispatchResult).IsPlain := by
  refine ⟨trivial, fun settings => ?_⟩
  simp only [done_bind]
  split
  · trivial
  · split
    · trivial
    · refine ⟨trivial, fun now => ?_⟩
      simp only [done_bind]
      split
      · trivial
      · refine ⟨trivial, fun id => ?_⟩
        simp only [done_bind]
        split
        · exact isPlain_bind (isPlain_spawn _ _ trivial) fun _ => trivial
        · exact ⟨trivial, fun _ => trivial⟩

theorem isPlain_routeFor (event : Event) (options : DispatchOptions) :
    (routeFor event options : Program h (Option Route)).IsPlain := by
  unfold routeFor
  split
  · trivial
  · exact ⟨trivial, fun _ => trivial⟩

end Delivery

namespace Standing

variable {s t : Standing h} {e : Entry h}

theorem Knows.mono (hk : s.Knows e) (ht : s.shown ⊆ t.shown) : t.Knows e :=
  hk.imp fun _ hm => ht hm

theorem knows_after_snapshot (s : Standing h) (name : String) (a : Snapshot h)
    (he : e ∈ a.entries) : (s.after (.performed (.snapshot name) a)).Knows e :=
  ⟨name, List.mem_append_left _ (List.mem_map_of_mem he)⟩

end Standing

namespace Delivery

open Program Standing

variable {s : Standing h} {e : Entry h}

/-- The right to run an entry passes to the pool with its job, and stays with the thread otherwise. -/
theorem keeps_submit (hs : s.MayRun e) (ctx : Context) (event : Event) :
    (submit (.listener e ctx event)).Keeps claiming s fun t r =>
      t = if r.isOk then s.at' .free else s := by
  refine ⟨trivial, fun closed _ => ?_⟩
  cases closed with
  | true => exact ⟨trivial, fun _ _ => rfl⟩
  | false =>
    refine ⟨hs, fun r _ => ?_⟩
    cases r with
    | ok u => exact ⟨trivial, fun _ _ => rfl⟩
    | error e => exact ⟨trivial, fun _ _ => rfl⟩

theorem keeps_spawn (hs : s.MayRun e) (name : String) (ctx : Context) (event : Event) :
    (spawn name .listener (.listener e ctx event)).Keeps claiming s fun t accepted =>
      t = if accepted then s.at' .free else s := by
  apply keeps_bind.2
  apply keeps_mono (keeps_submit hs ctx event)
  rintro t r rfl
  cases r with
  | ok u => exact rfl
  | error e => exact ⟨trivial, fun _ _ => rfl⟩

theorem keeps_spawnListener (hs : s.MayRun e) (ctx : Context) (event : Event) :
    (spawnListener ctx e event).Keeps claiming s (claiming.Returns (s.at' .free)) := by
  refine ⟨trivial, fun settings _ => ?_⟩
  simp only [done_bind]
  split
  · refine ⟨.inr hs, fun t ht r => ?_⟩
    exact keeps_plain (isPlain_logListenerFailure e.id event r) fun _ => ht
  · apply keeps_bind.2
    apply keeps_mono (keeps_spawn hs event.name ctx event)
    rintro t accepted rfl
    cases accepted with
    | true => exact claiming.leads_refl _
    | false =>
      -- A refused submission leaves the right to run with the thread, which gives it back.
      exact ⟨hs, fun _ _ => claiming.leads_refl _⟩

/-- What a granted claim is worth. -/
theorem mayRun_of_claim (hs : s.phase = .free) (he : s.Knows e) :
    (s.after (.performed (.claim e) true)).MayRun e := by
  by_cases once : e.options.once
  · simp only [Standing.after, once, Bool.and_self, if_true]
    exact ⟨he, by simp only [once, if_true, at']⟩
  · simp only [Standing.after, once, Bool.false_and, Bool.false_eq_true, if_false]
    exact ⟨he, by simp only [once, Bool.false_eq_true, if_false, hs]⟩

theorem after_claim_at_free (hs : s.phase = .free) (granted : Bool) :
    (s.after (.performed (.claim e) granted)).at' .free = s := by
  simp only [Standing.after]
  split
  · exact at_free hs
  · exact at_free hs

theorem keeps_callListeners (dispatched : Event) (ctx : Context) (event : Event)
    {es : List (Entry h)} (hs : s.phase = .free) (hd : 0 < s.depth) (hk : ∀ e ∈ es, s.Knows e) :
    (callListeners dispatched ctx event es).Keeps claiming s (claiming.Returns s) := by
  induction es generalizing s with
  | nil => exact claiming.leads_refl s
  | cons e rest ih =>
    -- The rest is called from wherever this entry leaves the thread, a state like the first.
    have go : ∀ t, claiming.Leads s t →
        (callListeners dispatched ctx event rest).Keeps claiming t (claiming.Returns s) := by
      intro t ht
      have called := ih (s := t) (ht.phase.trans hs) (ht.depth.symm ▸ hd) fun x hx =>
        (hk x (List.mem_cons_of_mem _ hx)).mono ht.shown
      exact keeps_mono called fun u _ hu => claiming.leads_trans ht hu
    have he : s.Knows e := hk e List.mem_cons_self
    refine ⟨⟨hs, hd, he⟩, fun granted _ => ?_⟩
    cases granted with
    | false =>
      have same : claiming.after s (.performed (.claim e) false) = s := by
        simp only [claiming, Standing.after, Bool.and_false, Bool.false_eq_true, if_false]
      simp only [done_bind, Bool.false_eq_true, if_false, same]
      exact go s (claiming.leads_refl s)
    | true =>
      have may := mayRun_of_claim hs he
      have back := after_claim_at_free (e := e) hs true
      simp only [done_bind, if_true]
      split
      · apply keeps_bind.2
        apply keeps_mono (keeps_spawnListener may ctx dispatched)
        intro t _ ht
        exact go t (back ▸ ht)
      · refine ⟨.inr may, fun t ht r => ?_⟩
        have leads : claiming.Leads s t := back ▸ ht
        cases r with
        | ok u => exact go t leads
        | error e => exact leads

theorem keeps_proceed {next : Next h} (ctx : Context) (event : Event) (hs : s.phase = .free)
    (hd : 0 < s.depth) (hk : ∀ e ∈ next.entries, s.Knows e) :
    (proceed next ctx event).Keeps claiming s (claiming.Returns s) := by
  unfold proceed
  split
  · exact keeps_callListeners _ _ _ hs hd hk
  · exact ⟨⟨hs, hd, hk⟩, fun t ht _ => ht⟩

/-- A delivery leaves its thread as it found it, but for the entries that it was shown. -/
theorem keeps_deliver (ctx : Context) (event : Event) (hs : s.phase = .free) :
    (deliver ctx event).Keeps claiming s (claiming.Returns s) := by
  refine ⟨hs, fun snapshot _ => ?_⟩
  simp only [done_bind]
  apply keeps_bind.2
  have known : ∀ e ∈ snapshot.entries,
      (claiming.after s (.performed (.snapshot event.name) snapshot)).Knows e :=
    fun e he => knows_after_snapshot s event.name snapshot he
  apply keeps_mono (keeps_proceed (s := claiming.after s (.performed (.snapshot event.name) snapshot))
    ctx event hs (Nat.succ_pos _) known)
  rintro t r ⟨phase, depth, shown⟩
  have free : t.phase = .free := phase.trans hs
  refine ⟨⟨free, depth.symm ▸ Nat.succ_pos _, fun e he => (known e he).mono shown⟩,
    fun ids answered => ?_⟩
  -- The end of the delivery takes back the depth that its snapshot added.
  have left : claiming.Leads s t.leave := by
    refine ⟨hs.symm, ?_, fun x hx => shown (List.mem_append_right _ hx)⟩
    show t.depth - 1 = s.depth
    rw [depth]
    exact Nat.add_sub_cancel s.depth 1
  cases ids with
  | nil => exact left
  | cons i rest =>
    -- Every id that is taken out is that of an entry of the snapshot, under the event's name.
    refine ⟨.inl ⟨rfl, fun j hj => ?_⟩, fun _ _ => left⟩
    obtain ⟨e, he, id⟩ := answered j hj
    exact ⟨e, shown (List.mem_append_left _ (List.mem_map_of_mem he)), id⟩

theorem keeps_dispatch (ctx : Context) (event : Option Event) (options : DispatchOptions)
    (hs : s.phase = .free) :
    (dispatch ctx event options).Keeps claiming s (claiming.Returns s) := by
  cases event with
  | none => exact claiming.leads_refl s
  | some event =>
    apply keeps_plain_bind (isPlain_routeFor event options)
    intro route
    simp only []
    split
    · exact claiming.leads_refl s
    · split
      · exact keeps_deliver _ _ hs
      · exact keeps_plain_bind (isPlain_spawn _ _ trivial) fun _ => claiming.leads_refl s
      · exact keeps_plain (isPlain_deliverExternal _ _ _) fun _ => claiming.leads_refl s

theorem keeps_dispatchEnvelope (ctx : Context) (envelope : Envelope) (hs : s.phase = .free) :
    (dispatchEnvelope ctx envelope).Keeps claiming s (claiming.Returns s) := by
  refine ⟨trivial, fun types _ => ?_⟩
  simp only [done_bind]
  split
  · exact claiming.leads_refl s
  · exact keeps_dispatch _ _ _ hs

theorem keeps_receive (ctx : Context) (bytes : Bytes) (hs : s.phase = .free) :
    (receive ctx bytes).Keeps claiming s (claiming.Returns s) := by
  unfold receive
  split
  · exact claiming.leads_refl s
  · exact keeps_dispatchEnvelope _ _ hs

theorem keeps_consume (ctx : Context) (m : Message) (hs : s.phase = .free) :
    (consume ctx m).Keeps claiming s (claiming.Returns s) := by
  unfold consume
  split
  · exact claiming.leads_refl s
  · exact keeps_bind.2 (keeps_mono (keeps_dispatchEnvelope _ _ hs) fun _ _ ht => ht)

end Delivery

namespace Standing

open Program Control Delivery

theorem claiming_serves : (claiming (h := h)).Serves := by
  intro r s hs
  have plain {α : Type} {p : Program h α} (hp : p.IsPlain) :
      p.Keeps claiming s (claiming.Returns s) :=
    keeps_plain hp fun _ => claiming.leads_refl s
  cases r with
  | host o => exact plain (isPlain_op trivial)
  | subscribe name handler options => exact keeps_subscribe name handler options hs
  | unsubscribe b => exact keeps_unsubscribe b hs
  | isActive b => exact plain (isPlain_isActive b)
  | loadRoutes entries => exact plain (isPlain_loadRoutes entries)
  | applyConfig c => exact plain (isPlain_applyConfig c)
  | dispatch ctx event options => exact keeps_dispatch ctx event options hs
  | dispatchEnvelope ctx envelope => exact keeps_dispatchEnvelope ctx envelope hs
  | receive ctx bytes => exact keeps_receive ctx bytes hs
  | consume ctx m => exact keeps_consume ctx m hs
  | stats => exact plain isPlain_stats
  | shutdown => exact plain isPlain_shutdown

variable {s : Standing h}

/-- An interceptor that goes on does so from a state like the one it was called in. -/
theorem keeps_runInterceptor (app : Application h) (i : Interceptor h) (next : Next h)
    (ctx : Context) (event : Event) (hs : s.phase = .free) (hd : 0 < s.depth)
    (hk : ∀ e ∈ next.entries, s.Knows e) :
    (app.runInterceptor i next ctx event).Keeps claiming s (claiming.Returns s) := by
  apply keeps_bind.2
  apply keeps_mono (Script.program_keeps claiming_serves (app.verdict i ctx event) hs)
  intro t v ht
  cases v with
  | finish r => exact ht
  | proceed ctx event after =>
    have free : t.phase = .free := ht.phase.trans hs
    have went := keeps_proceed ctx event free (ht.depth.symm ▸ hd) fun e he =>
      (hk e he).mono ht.shown
    apply keeps_bind.2
    apply keeps_mono went
    intro u r hu
    have ended := Script.program_keeps claiming_serves (after r) (claiming.calm_of_leads free hu)
    exact keeps_mono ended fun v _ hv =>
      claiming.leads_trans ht (claiming.leads_trans hu hv)

theorem keeps_job (job : Job h) :
    job.program.Keeps claiming (rest.after (.took job)) (claiming.Returns rest) := by
  cases job with
  | listener e ctx event =>
    refine ⟨.inl rfl, fun t ht r => ?_⟩
    exact keeps_plain (isPlain_logListenerFailure e.id event r) fun _ => ht
  | dispatch ctx event =>
    apply keeps_bind.2
    apply keeps_mono (keeps_deliver ctx event rfl)
    intro t r ht
    cases r with
    | ok u => exact ht
    | error e => exact ⟨trivial, fun _ _ => ht⟩
  | publish ctx m =>
    refine ⟨trivial, fun r _ => ?_⟩
    cases r with
    | ok u => exact claiming.leads_refl rest
    | error e => exact ⟨trivial, fun _ _ => claiming.leads_refl rest⟩

/-- Claims are made as they should be by all that runs, whatever the application does. -/
theorem claiming_upheld (app : Application h) : claiming.Upheld app where
  calm := rfl
  serves := claiming_serves
  bodies s c hc := by
    cases c with
    | listener e ctx event =>
      exact Script.program_keeps claiming_serves (app.runListener e.handler ctx event) rfl
    | interceptor i next ctx event =>
      exact keeps_runInterceptor app i next ctx event hc.1 hc.2.1 hc.2.2
  jobs := keeps_job

end Standing
end EventDispatch
