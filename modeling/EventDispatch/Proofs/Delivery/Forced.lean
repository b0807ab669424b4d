import EventDispatch.Proofs.Delivery.Foreseen
import EventDispatch.Proofs.Delivery.Traced

namespace EventDispatch

variable {h : Host}

namespace Invocation

def isAsync (c : Invocation h) : Bool := c.entry.options.asynchronous

end Invocation

namespace Handling

def called? : Handling h → Option (Invocation h)
  | .called e ctx event => some ⟨e, ctx, event⟩
  | _ => none

def accepted? : Handling h → Option (Invocation h)
  | .accepted e ctx event => some ⟨e, ctx, event⟩
  | _ => none

theorem called?_handling (forced : Bool) (c : Invocation h) :
    (c.handling forced).called? = if !(c.isAsync && !forced) then some c else none := by
  unfold Invocation.handling Invocation.isAsync
  cases c.entry.options.asynchronous && !forced <;> rfl

theorem accepted?_handling (forced : Bool) (c : Invocation h) :
    (c.handling forced).accepted? = if c.isAsync && !forced then some c else none := by
  unfold Invocation.handling Invocation.isAsync
  cases c.entry.options.asynchronous && !forced <;> rfl

end Handling

namespace Delivery

open Program
open World (Spares)

def calls (path : List (Footstep h)) : List (Invocation h) :=
  (handlings path).filterMap Handling.called?

def submissions (path : List (Footstep h)) : List (Invocation h) :=
  (handlings path).filterMap Handling.accepted?

theorem filterMap_handling {forced : Bool} {f : Handling h → Option (Invocation h)}
    {keep : Invocation h → Bool}
    (reads : ∀ c : Invocation h, f (c.handling forced) = if keep c then some c else none)
    (cs : List (Invocation h)) : (cs.map (·.handling forced)).filterMap f = cs.filter keep := by
  induction cs with
  | nil => rfl
  | cons c cs ih =>
    rw [List.map_cons, List.filterMap_cons, reads, ih, List.filter_cons]
    cases keep c <;> rfl

section Readings

variable {ρ : Type} {w w' : World h} {path : List (Footstep h)} {answer : ρ} {u : Upshot h ρ}

theorem Follows.calls_forced (follows : Follows w path w' answer u)
    (forced : w.settings.forceSync = true) : Delivery.calls path = u.calls := by
  rw [Delivery.calls, follows.calls, filterMap_handling (Handling.called?_handling _), forced]
  refine List.filter_eq_self.2 fun c _ => ?_
  rw [Bool.not_true, Bool.and_false, Bool.not_false]

theorem Follows.calls_pooled (follows : Follows w path w' answer u)
    (pooled : w.settings.forceSync = false) :
    Delivery.calls path = u.calls.filter fun c => !c.isAsync := by
  rw [Delivery.calls, follows.calls, filterMap_handling (Handling.called?_handling _), pooled]
  refine List.filter_congr fun c _ => ?_
  rw [Bool.not_false, Bool.and_true]

theorem Follows.submissions_pooled (follows : Follows w path w' answer u)
    (pooled : w.settings.forceSync = false) :
    submissions path = u.calls.filter Invocation.isAsync := by
  rw [submissions, follows.calls, filterMap_handling (Handling.accepted?_handling _), pooled]
  refine List.filter_congr fun c _ => ?_
  rw [Bool.not_false, Bool.and_true]

end Readings

end Delivery

structure Sending where
  ctx : Context
  event : Event
  options : DispatchOptions

/-- In this state it is delivered in this process and at once. -/
structure Sending.IsDirect (s : Sending) (w : World h) : Prop where
  memory : (DispatchPlan.target s.options (Delivery.routeIn w s.event s.options)).1 = .memory
  now : s.options.asynchronous = false

/-- What a dispatch in this process makes of a registry. -/
def Sending.upshot (s : Sending) (k : Habits h) (r : Registry h) : Upshot h DispatchResult :=
  k.delivery (Delivery.ownContext s.ctx s.options) s.event r

structure Sent (h : Host) where
  sending : Sending
  path : List (Footstep h)
  result : DispatchResult

namespace Delivery

open Program
open World (Spares)

variable {app : Application h} {t t' : Thread} {w v w₁ w' v' : World h} {path : List (Footstep h)}
  {k : Habits h} {s : Sending} {result : DispatchResult} {sent sent' : List (Sent h)}

/-- Dispatches one after the other, each in this process and at once, and whatever else happens before
each of them and after the last. -/
inductive Sends (app : Application h) (t : Thread) : World h → List (Sent h) → World h → Prop where
  | rest {w w' : World h} (others : w.Spares w') : Sends app t w [] w'
  | dispatch {w w₁ w₂ w' : World h} {s : Sending} {path : List (Footstep h)}
      {result : DispatchResult} {sent : List (Sent h)} (others : w.Spares w₁) (direct : s.IsDirect w₁)
      (ran : (dispatch s.ctx (some s.event) s.options).Unrolls app Spares t w₁ path w₂ result)
      (later : Sends app t w₂ sent w') : Sends app t w (⟨s, path, result⟩ :: sent) w'

/-- The plan of a direct dispatch is a delivery under the dispatch's own context. -/
theorem exists_direct_plan (h : Host) {route : Option Route}
    (memory : (DispatchPlan.target s.options route).1 = .memory)
    (now : s.options.asynchronous = false) :
    ∃ plan, DispatchPlan.resolve s.event.name s.options route = .ok plan ∧
      (carryOut s.ctx s.event plan : Program h DispatchResult) =
        deliver (ownContext s.ctx s.options) s.event := by
  cases resolved : DispatchPlan.resolve s.event.name s.options route with
  | error e =>
    simp only [DispatchPlan.resolve, memory, reduceCtorEq, false_and, if_false] at resolved
  | ok plan =>
    refine ⟨plan, rfl, ?_⟩
    rw [← withPlanTrace_eq (resolve_trace resolved)]
    simp only [DispatchPlan.resolve, memory, reduceCtorEq, false_and, if_false] at resolved
    cases resolved
    simp only [carryOut, now]

theorem routeFor_tells {event : Event} {options : DispatchOptions} {route : Option Route}
    (ran : (routeFor event options).Unrolls app Spares t w path w' route) :
    route = routeIn w event options ∧ handlings path = [] ∧ w.Spares w' := by
  unfold routeFor at ran
  unfold routeIn
  split at ran
  · next chosen =>
    obtain ⟨rfl, rfl, rfl⟩ := unrolls_done_iff.1 ran
    exact ⟨(if_pos chosen).symm, rfl, .refl _⟩
  · next free =>
    obtain ⟨-, w₁, rest, others, rfl, ran₁⟩ := unrolls_op_bind_iff.1 ran
    obtain ⟨rfl, rfl, rfl⟩ := unrolls_done_iff.1 ran₁
    exact ⟨(if_neg free).symm, rfl, .after others rfl rfl⟩

theorem exists_routeFor (app : Application h) (t : Thread) (w : World h) (event : Event)
    (options : DispatchOptions) : ∃ path, (routeFor event options).Unrolls app Spares t w path w
      (routeIn w event options) := by
  unfold routeFor routeIn
  split
  · exact ⟨[], .done _ _⟩
  · exact ⟨_, .perform rfl (.refl _) (.done _ _)⟩

/-- A direct dispatch goes as computed, and the next ones can be foreseen as well. -/
theorem dispatch_follows (habitual : Habitual app k w.registry) (others : w.Spares w₁)
    (direct : s.IsDirect w₁) (served : Served w₁ path)
    (ran : (dispatch s.ctx (some s.event) s.options).Unrolls app Spares t w₁ path w' result) :
    Follows w₁ path w' result (s.upshot k w.registry) ∧ Habitual app k w'.registry := by
  rw [← others.registry] at habitual ⊢
  have follows : Follows w₁ path w' result (s.upshot k w₁.registry) := by
    rw [dispatch_eq] at ran
    obtain ⟨lookup, w₂, route, rest, rfl, routed, ran₁⟩ := ran.of_bind
    obtain ⟨rfl, none, spared⟩ := routeFor_tells routed
    obtain ⟨plan, resolved, direct⟩ := exists_direct_plan h direct.memory direct.now
    rw [resolved] at ran₁
    simp only [direct] at ran₁
    rw [← spared.registry] at habitual ⊢
    have follows := deliver_follows habitual (served.right spared.settings) ran₁
    refine follows.within spared (.refl w') ?_
    rw [handlings_append, none, List.nil_append]
  refine ⟨follows, ?_⟩
  rw [follows.registry]
  exact habitual.after_delivery _ s.event

theorem exists_dispatch (habitual : Habitual app k w.registry) (direct : s.IsDirect w) (t : Thread) :
    ∃ path w' result, (dispatch s.ctx (some s.event) s.options).Unrolls app Spares t w path w' result ∧
      Accepted path := by
  obtain ⟨lookup, routed⟩ := exists_routeFor app t w s.event s.options
  obtain ⟨path, w', result, ran, accepted⟩ := exists_delivered habitual
  refine ⟨lookup ++ path, w', result, ?_, accepted_append_iff.2 ⟨?_, accepted⟩⟩
  · rw [dispatch_eq]
    apply routed.bind
    obtain ⟨plan, resolved, direct⟩ := exists_direct_plan h direct.memory direct.now
    rw [resolved]
    simp only [direct]
    exact ran
  · intro e refused
    rw [(routeFor_tells routed).2.1] at refused
    cases refused

/-- The same dispatch, by a dispatcher that forces async listeners and by one that has a pool. What the
one calls at once the other hands to the pool, with the event as it was dispatched. -/
structure Agrees (forced pooled : Sent h) : Prop where
  sending : pooled.sending = forced.sending
  result : pooled.result = forced.result
  inline : calls pooled.path = (calls forced.path).filter fun c => !c.isAsync
  asynchronous : submissions pooled.path = (calls forced.path).filter Invocation.isAsync
  dispatched : ∀ c ∈ calls forced.path, c.isAsync = true → c.event = forced.sending.event

theorem agrees_of_follows {path' : List (Footstep h)} {result' : DispatchResult} {r : Registry h}
    (forced : w.settings.forceSync = true) (pooled : v.settings.forceSync = false)
    (follows : Follows w path w' result (s.upshot k r))
    (follows' : Follows v path' v' result' (s.upshot k r)) :
    Agrees ⟨s, path, result⟩ ⟨s, path', result'⟩ where
  sending := rfl
  result := follows'.result.trans follows.result.symm
  inline := by
    show calls path' = (calls path).filter _
    rw [follows'.calls_pooled pooled, follows.calls_forced forced]
  asynchronous := by
    show submissions path' = (calls path).filter _
    rw [follows'.submissions_pooled pooled, follows.calls_forced forced]
  dispatched := by
    show ∀ c ∈ calls path, c.isAsync = true → c.event = s.event
    rw [follows.calls_forced forced]
    exact fun c hc => (k.chain_given s.event r.interceptors _ s.event r c hc).event

/-- The same dispatches agree one by one, and leave the same registry. -/
theorem sends_agree (habitual : Habitual app k w.registry) (forced : w.settings.forceSync = true)
    (pooled : v.settings.forceSync = false) (same : v.registry = w.registry)
    (ran : Sends app t w sent w') (ran' : Sends app t' v sent' v')
    (asked : sent'.map Sent.sending = sent.map Sent.sending)
    (accepted : ∀ d ∈ sent', Accepted d.path) :
    List.Forall₂ Agrees sent sent' ∧ v'.registry = w'.registry := by
  induction ran generalizing v sent' with
  | rest others =>
    cases ran' with
    | rest others' => exact ⟨.nil, others'.registry.trans (same.trans others.registry.symm)⟩
    | dispatch => cases asked
  | @dispatch w w₁ w₂ w' s path result sent others direct ran later ih =>
    cases ran' with
    | rest => cases asked
    | @dispatch _ v₁ v₂ _ s' path' result' sent' others' direct' ran' later' =>
      obtain ⟨rfl, next⟩ := List.cons.inj asked
      obtain ⟨first, accepted⟩ := List.forall_mem_cons.1 accepted
      have forced₁ : w₁.settings.forceSync = true := by rw [others.settings, forced]
      have pooled₁ : v₁.settings.forceSync = false := by rw [others'.settings, pooled]
      obtain ⟨follows, habitual₂⟩ := dispatch_follows habitual others direct (.of_forced forced₁) ran
      obtain ⟨follows', -⟩ :=
        dispatch_follows (same ▸ habitual) others' direct' (fun _ => first) ran'
      rw [same] at follows'
      obtain ⟨agree, registry⟩ := ih habitual₂ (by rw [follows.settings, forced₁])
        (by rw [follows'.settings, pooled₁]) (follows'.registry.trans follows.registry.symm) later' next
        accepted
      exact ⟨.cons (agrees_of_follows forced₁ pooled₁ follows follows') agree, registry⟩

/-- A thread does the work that the pool took on. -/
def Worked (app : Application h) (c : Invocation h) (t : Thread) (x : World h)
    (path : List (Footstep h)) (x' : World h) : Prop :=
  (Job.listener c.entry c.ctx c.event).program.Unrolls app Spares t x path x' ()

section Workers

variable {c : Invocation h} {x x' : World h} {r : ListenerResult} {order : List (Invocation h)}
  {paths : List (List (Footstep h))}

theorem calls_worked (worked : Worked app c t x path x') : calls path = [c] := by
  have handled : handlings path = [.called c.entry c.ctx c.event] := handlings_listen worked
  rw [calls, handled]
  rfl

theorem calls_of_worked
    (worked : List.Forall₂ (fun c path => ∃ t x x', Worked app c t x path x') order paths) :
    paths.flatMap calls = order := by
  induction worked with
  | nil => rfl
  | cons first rest ih =>
    obtain ⟨t, x, x', worked⟩ := first
    rw [List.flatMap_cons, calls_worked worked, ih, List.singleton_append]

theorem spares_of_worked (settles : (app.body (.listener c.entry c.ctx c.event)).Settles app t r)
    (worked : Worked app c t x path x') : x.Spares x' := by
  obtain ⟨inner, x₁, r', rest, body, rfl, told⟩ := unrolls_listener_iff.1 worked
  exact ((settles x).1 _ _ _ body).2.trans (logListenerFailure_tells told).2

end Workers

/-- All that is called in a sequence are listeners that were registered when it began. -/
theorem settles_of_called (habitual : Habitual app k w.registry)
    (forced : w.settings.forceSync = true) (ran : Sends app t w sent w') :
    ∀ d ∈ sent, ∀ c ∈ calls d.path, ∀ t,
      ∃ r, (app.body (.listener c.entry c.ctx c.event)).Settles app t r := by
  induction ran with
  | rest others => exact fun d hd => absurd hd List.not_mem_nil
  | @dispatch w w₁ w₂ w' s path result sent others direct ran later ih =>
    have forced₁ : w₁.settings.forceSync = true := by rw [others.settings, forced]
    obtain ⟨follows, habitual₂⟩ := dispatch_follows habitual others direct (.of_forced forced₁) ran
    refine List.forall_mem_cons.2 ⟨?_, ih habitual₂ (by rw [follows.settings, forced₁])⟩
    show ∀ c ∈ calls path, ∀ t, _
    rw [follows.calls_forced forced₁]
    intro c hc t
    have given := k.chain_given s.event w.registry.interceptors _ s.event w.registry c hc
    exact ⟨_, habitual.listeners _ c.entry given.listed t c.ctx c.event⟩

/-- Dispatches of which neither the options nor, in the end, the routes ask for the broker or the pool. -/
theorem exists_sends (habitual : Habitual app k w.registry) (t : Thread) {sendings : List Sending}
    (direct : ∀ s ∈ sendings, s.options.asynchronous = false ∧ s.options.driver ≠ some .external) :
    ∃ sent w', Sends app t w sent w' ∧ sent.map Sent.sending = sendings ∧
      ∀ d ∈ sent, Accepted d.path := by
  induction sendings generalizing w with
  | nil => exact ⟨[], w, .rest (.refl w), rfl, fun d hd => absurd hd List.not_mem_nil⟩
  | cons s sendings ih =>
    obtain ⟨⟨now, driver⟩, later⟩ := List.forall_mem_cons.1 direct
    -- Before the dispatch someone takes all routes out.
    let w₁ : World h := { w with table := .empty }
    have others : w.Spares w₁ := ⟨rfl, rfl⟩
    have direct : s.IsDirect w₁ := by
      refine ⟨?_, now⟩
      unfold routeIn DispatchPlan.target
      cases chosen : s.options.driver with
      | none => rfl
      | some d =>
        cases d with
        | memory => rfl
        | external => exact absurd chosen driver
    obtain ⟨path, w₂, result, ran, accepted⟩ := exists_dispatch (w := w₁) habitual direct t
    obtain ⟨-, habitual₂⟩ := dispatch_follows habitual others direct (fun _ => accepted) ran
    obtain ⟨sent, w', sends, asked, all⟩ := ih habitual₂ later
    exact ⟨_, w', .dispatch others direct ran sends, congrArg (s :: ·) asked,
      List.forall_mem_cons.2 ⟨accepted, all⟩⟩

/-- To force async listeners changes who calls them, and nothing else. Listeners and interceptors go by
habit: what they answer and decide depends on the context and the event alone, and they leave the
registry and the settings alone. The same dispatches, each in this process and at once, are sent to a
dispatcher that forces async listeners and to one whose pool accepts and runs what it is given. One by
one they have the same result and call the same inline listeners, and what the one calls at once the
pool's workers call, with the event as it was dispatched. In the end the same listeners are registered.
Both sequences can be gone through. -/
theorem forced_as_pooled (habitual : Habitual app k w.registry)
    (forced : w.settings.forceSync = true) (pooled : v.settings.forceSync = false)
    (same : v.registry = w.registry) :
    (∀ t t' sent sent' w' v', Sends app t w sent w' → Sends app t' v sent' v' →
      sent'.map Sent.sending = sent.map Sent.sending → (∀ d ∈ sent', Accepted d.path) →
      List.Forall₂ Agrees sent sent' ∧ v'.registry = w'.registry ∧
      ∀ order : List (Invocation h), order.Perm (sent'.flatMap fun d => submissions d.path) →
        (∀ c ∈ order, ∀ t x, (∃ path x', Worked app c t x path x') ∧
          ∀ path x', Worked app c t x path x' → x'.registry = x.registry) ∧
        ∀ paths, List.Forall₂ (fun c path => ∃ t x x', Worked app c t x path x') order paths →
          (paths.flatMap calls).Perm
            (sent.flatMap fun d => (calls d.path).filter Invocation.isAsync)) ∧
    ∀ t (sendings : List Sending),
      (∀ s ∈ sendings, s.options.asynchronous = false ∧ s.options.driver ≠ some .external) →
      (∃ sent w', Sends app t w sent w' ∧ sent.map Sent.sending = sendings) ∧
      ∃ sent' v', Sends app t v sent' v' ∧ sent'.map Sent.sending = sendings ∧
        ∀ d ∈ sent', Accepted d.path := by
  refine ⟨fun t t' sent sent' w' v' ran ran' asked accepted => ?_, fun t sendings direct => ?_⟩
  · obtain ⟨agree, registry⟩ := sends_agree habitual forced pooled same ran ran' asked accepted
    -- The pool was handed what the other dispatcher called of the async entries itself.
    have handed : (sent'.flatMap fun d => submissions d.path) =
        sent.flatMap fun d => (calls d.path).filter Invocation.isAsync := by
      clear ran ran' asked accepted
      induction agree with
      | nil => rfl
      | cons first rest ih => rw [List.flatMap_cons, List.flatMap_cons, first.asynchronous, ih]
    refine ⟨agree, registry, fun order perm => ⟨fun c hc t x => ?_, fun paths worked => ?_⟩⟩
    · obtain ⟨d, hd, hc⟩ := List.mem_flatMap.1 (handed ▸ perm.mem_iff.1 hc)
      obtain ⟨r, settles⟩ :=
        settles_of_called habitual forced ran d hd c (List.mem_filter.1 hc).1 t
      exact ⟨exists_listened settles, fun path x' worked => (spares_of_worked settles worked).registry⟩
    · rw [calls_of_worked worked, ← handed]
      exact perm
  · obtain ⟨sent, w', sends, asked, -⟩ := exists_sends habitual t direct
    exact ⟨⟨sent, w', sends, asked⟩, exists_sends (same ▸ habitual) t direct⟩

/-- An application whose listeners answer what they are told to, and whose interceptors put another event
in the place of the one that was dispatched. -/
abbrev stageHost : Host := ⟨ListenerResult, Unit, Empty, Unit, Unit, Empty⟩

def understudy : Event := .raw ⟨"understudy", ⟨"null"⟩, .epoch, none⟩

def stage : Application stageHost where
  listen r _ _ := return r
  intercept _ ctx _ := return .proceed ctx understudy fun r => return r
  run e := nomatch e

def stageHabits : Habits stageHost where
  answer e _ _ :=
    match e.handler with
    | .plain r => r
    | .typed _ r => r
  rule i ctx event :=
    match i with
    | .custom _ => .proceed ctx understudy id
    | .filter keeps => if keeps ctx event then .proceed ctx event id else .finish (.ok ())
    | _ => .proceed ctx event id

def cast : List (Entry stageHost) :=
  [⟨1, .plain (.error .cancelled), ⟨0, true, true⟩⟩, ⟨2, .plain (.ok ()), ⟨0, false, false⟩⟩,
    ⟨3, .plain (.error .stopPropagation), ⟨0, false, false⟩⟩, ⟨4, .plain (.ok ()), ⟨0, true, false⟩⟩]

def playhouse (forced : Bool) : World stageHost :=
  { World.start default none () with
    settings := ⟨2, forced, none⟩
    registry :=
      ⟨Keyed.empty.insert "n" cast, [.logging, .filter fun _ e => e.name == "n", .custom ()], []⟩ }

/-- Only the async listener sees the event that was dispatched, and only the first time. -/
example :
    let opening := stageHabits.delivery .background news (playhouse true).registry
    let repeated := stageHabits.delivery .background news opening.registry
    [opening, repeated].map (fun u => u.calls.map fun c => (c.entry.id, c.event.name)) =
      [[(1, "n"), (2, "understudy"), (3, "understudy")], [(2, "understudy"), (3, "understudy")]] := by
  decide +kernel

theorem habitual_stage (forced : Bool) : Habitual stage stageHabits (playhouse forced).registry := by
  constructor
  · intro name e mem t ctx event
    have found : (playhouse forced).registry.listeners.find? name =
        if "n" = name then some cast else none := Keyed.find?_insert "n" name cast .empty
    have plain : ∃ r, e.handler = .plain r := by
      rw [Registry.entries, found] at mem
      split at mem
      · simp only [Option.getD_some, cast, List.mem_cons, List.not_mem_nil, or_false] at mem
        rcases mem with rfl | rfl | rfl | rfl <;> exact ⟨_, rfl⟩
      · cases mem
    obtain ⟨id, handler, options⟩ := e
    obtain ⟨r, rfl⟩ := plain
    exact settles_done r
  · intro i mem t ctx event
    simp only [playhouse, List.mem_cons, List.not_mem_nil, or_false] at mem
    rcases mem with rfl | rfl | rfl
    · exact obeys_of_passesThrough passesThrough_logging
    · exact obeys_filter _
    · exact obeys_of_settles (settles_done _) ⟨_, rfl, fun r => settles_done r⟩

def performances : List Sending :=
  [⟨.background, news, .empty⟩, ⟨.background, news, .inMemory⟩]

theorem performances_agree : ∃ sent sent' w' v',
    Sends stage .main (playhouse true) sent w' ∧ Sends stage .main (playhouse false) sent' v' ∧
      sent.map Sent.sending = performances ∧ List.Forall₂ Agrees sent sent' ∧
      v'.registry = w'.registry := by
  obtain ⟨agree, ways⟩ := forced_as_pooled (v := playhouse false) (habitual_stage true) rfl rfl rfl
  obtain ⟨⟨sent, w', ran, asked⟩, sent', v', ran', asked', accepted⟩ :=
    ways .main performances (by decide)
  obtain ⟨agrees, registry, -⟩ :=
    agree .main .main sent sent' w' v' ran ran' (asked'.trans asked.symm) accepted
  exact ⟨sent, sent', w', v', ran, ran', asked, agrees, registry⟩

end Delivery
end EventDispatch
