import EventDispatch.Dispatch.Start
import EventDispatch.Proofs.Delivery.Steps

namespace EventDispatch

variable {h : Host}

namespace Footstep

/-- A step that leaves the state as it found it, and calls nothing. -/
def IsIdle (t : Thread) : Footstep h → Prop
  | .performed found o => (found.answer t o).2 = found
  | .called _ => False

/-- Looking something up, numbering a message and telling the log are no acts. -/
def acts : Footstep h → Bool
  | .performed _ (.host .table) => false
  | .performed _ (.host .settings) => false
  | .performed _ (.host (.log _)) => false
  | .performed _ .now => false
  | .performed _ .messageId => false
  | _ => true

/-- A snapshot begins a delivery to listeners, and publishing is a delivery to the publisher. -/
def delivers : Footstep h → Bool
  | .performed _ (.snapshot _) => true
  | .performed _ (.publish _ _) => true
  | _ => false

def Looks (t : Thread) (path : List (Footstep h)) : Prop := ∀ s ∈ path, s.IsIdle t ∧ s.acts = false

theorem Looks.nil (t : Thread) : Looks t ([] : List (Footstep h)) :=
  fun _ hs => absurd hs List.not_mem_nil

theorem Looks.single {t : Thread} {s : Footstep h} (hs : s.IsIdle t ∧ s.acts = false) :
    Looks t [s] := by
  simpa [Looks] using hs

theorem Looks.append {t : Thread} {first rest : List (Footstep h)} (hf : Looks t first)
    (hr : Looks t rest) : Looks t (first ++ rest) := by
  intro s hs
  rcases List.mem_append.1 hs with hs | hs
  · exact hf s hs
  · exact hr s hs

theorem acts_of_delivers {s : Footstep h} (hd : s.delivers) : s.acts := by
  unfold Footstep.delivers at hd
  split at hd
  · rfl
  · rfl
  · cases hd

theorem filter_acts_eq_nil {path : List (Footstep h)} (quiet : ∀ s ∈ path, s.acts = false) :
    path.filter acts = [] := by
  rw [List.filter_eq_nil_iff]
  intro s hs
  rw [quiet s hs]
  exact Bool.false_ne_true

theorem Looks.filter_acts {t : Thread} {first : List (Footstep h)} (hf : Looks t first)
    (rest : List (Footstep h)) : (first ++ rest).filter acts = rest.filter acts := by
  rw [List.filter_append, filter_acts_eq_nil fun s hs => (hf s hs).2, List.nil_append]

/-- Who may neither take a snapshot nor publish delivers nothing. -/
theorem filter_delivers_eq_nil {may : Op h → Prop} {mayCall : Call h → Prop}
    {path : List (Footstep h)} (within : ∀ s ∈ path, s.Within may mayCall)
    (snapshot : ∀ name, ¬may (.snapshot name)) (publish : ∀ ctx m, ¬may (.publish ctx m)) :
    path.filter delivers = [] := by
  rw [List.filter_eq_nil_iff]
  intro s hs hd
  have allowed := within s hs
  unfold Footstep.delivers at hd
  split at hd
  · exact snapshot _ allowed
  · exact publish _ _ allowed
  · cases hd

theorem Looks.filter_delivers {t : Thread} {first : List (Footstep h)} (hf : Looks t first)
    (rest : List (Footstep h)) : (first ++ rest).filter delivers = rest.filter delivers := by
  have none : first.filter delivers = [] := by
    rw [List.filter_eq_nil_iff]
    intro s hs hd
    have act := acts_of_delivers hd
    rw [(hf s hs).2] at act
    cases act
  rw [List.filter_append, none, List.nil_append]

end Footstep

/-- The errors of a dispatch that a check refused. -/
inductive DispatchError.IsRefusal : DispatchError → Prop where
  | topic (event : String) : IsRefusal (.topicRequired event)
  | publisher (event : String) : IsRefusal (.publisherMissing event)
  | encoding (e : Json.Error) : IsRefusal (.serialization e)

namespace Delivery

open Program Footstep

def routeIn (w : World h) (event : Event) (options : DispatchOptions) : Option Route :=
  if options.driver.isSome then none else w.table.route? event.name

def admitted (publisher : Option Publisher) (event : Event) (plan : DispatchPlan) :
    Except DispatchError DispatchPlan :=
  if plan.driver = .external then
    if publisher = none then .error (.publisherMissing event.name)
    else match event.encodeBody with
      | .error e => .error (.serialization e)
      | .ok _ => .ok plan
  else .ok plan

/-- What the checks come to: the topic is checked first, then the publisher, then the encoding. -/
def checked (w : World h) (event : Event) (options : DispatchOptions) :
    Except DispatchError DispatchPlan :=
  (DispatchPlan.resolve event.name options (routeIn w event options)).bind
    (admitted w.settings.publisher event)

/-- The jobs by which a plan is carried out on the pool. -/
inductive Carries (event : Event) : Driver → Job h → Prop where
  | dispatch (ctx : Context) : Carries event .memory (.dispatch ctx event)
  | publish (ctx : Context) (m : Message) : Carries event .external (.publish ctx m)

variable {app : Application h} {meanwhile : World h → World h → Prop} {t : Thread} {w w' : World h}
  {path : List (Footstep h)} {ctx : Context} {event : Event} {options : DispatchOptions}
  {plan : DispatchPlan} {result : DispatchResult} {job : Job h}

theorem resolve_error {name : String} {route : Option Route} {e : DispatchError}
    (refused : DispatchPlan.resolve name options route = .error e) : e = .topicRequired name := by
  unfold DispatchPlan.resolve at refused
  simp only at refused
  split at refused
  · exact (Except.error.inj refused).symm
  · cases refused

theorem resolve_topic {name : String} {route : Option Route}
    (resolved : DispatchPlan.resolve name options route = .ok plan)
    (external : plan.driver = .external) :
    ∃ topic, plan.topic = some topic := by
  unfold DispatchPlan.resolve at resolved
  simp only at resolved
  split at resolved
  · cases resolved
  · next both =>
    cases resolved
    exact Option.ne_none_iff_exists'.1 fun none => both ⟨external, none⟩

theorem checked_refuses {e : DispatchError} (refused : checked w event options = .error e) :
    e.IsRefusal := by
  unfold checked admitted at refused
  cases resolved : DispatchPlan.resolve event.name options (routeIn w event options) with
  | error e' =>
    rw [resolved] at refused
    cases refused
    rw [resolve_error resolved]
    exact .topic _
  | ok plan =>
    rw [resolved, Except.bind] at refused
    split at refused
    · split at refused
      · cases refused
        exact .publisher _
      · split at refused
        · cases refused
          exact .encoding _
        · cases refused
    · cases refused

theorem routeFor_looks {route : Option Route}
    (ran : (routeFor event options).Runs app meanwhile t w path w' route) : Looks t path := by
  unfold routeFor at ran
  split at ran
  · obtain ⟨rfl, -⟩ := runs_done_iff.1 ran
    exact Looks.nil t
  · obtain ⟨-, w₁, rest, -, rfl, ran₁⟩ := runs_op_bind_iff.1 ran
    obtain ⟨rfl, -⟩ := runs_done_iff.1 ran₁
    exact Looks.single ⟨rfl, rfl⟩

theorem runs_routeFor (fixed : ∀ w w' : World h, meanwhile w w' → w'.settings = w.settings)
    {route : Option Route} (ran : (routeFor event options).Runs app meanwhile t w path w' route) :
    route = routeIn w event options ∧ w'.settings = w.settings ∧ Looks t path := by
  have looked := routeFor_looks ran
  unfold routeFor at ran
  unfold routeIn
  split at ran
  · next chosen =>
    obtain ⟨rfl, rfl, rfl⟩ := runs_done_iff.1 ran
    exact ⟨(if_pos chosen).symm, rfl, looked⟩
  · next unchosen =>
    obtain ⟨-, w₁, rest, others, rfl, ran₁⟩ := runs_op_bind_iff.1 ran
    obtain ⟨rfl, rfl, rfl⟩ := runs_done_iff.1 ran₁
    exact ⟨(if_neg unchosen).symm, fixed _ _ others, looked⟩

/-- Every step of a submission acts, and none delivers. -/
theorem submit_acts {r : Except PoolError Unit}
    (ran : (submit job).Runs app meanwhile t w path w' r) :
    ∀ s ∈ path, s.acts ∧ s.delivers = false := by
  intro s hs
  have within := ran.within (submit_keeps job) s hs
  cases s with
  | performed found o =>
    cases (within : SubmitStep job o) with
    | isClosed => exact ⟨rfl, rfl⟩
    | enqueue => exact ⟨rfl, rfl⟩
    | tally c => exact ⟨rfl, rfl⟩
    | settle c => exact ⟨rfl, rfl⟩
  | called c => exact absurd within id

/-- Handing a job to the pool is one submission, whatever comes of it. -/
theorem runs_spawn {name : String} {kind : WorkKind} {accepted : Bool}
    (ran : (spawn name kind job).Runs app meanwhile t w path w' accepted) :
    ∃ steps w₁ r, (submit job).Runs app meanwhile t w steps w₁ r ∧ path.filter acts = steps := by
  obtain ⟨steps, w₁, r, rest, rfl, submitted, ran₁⟩ := runs_bind_iff.1 ran
  refine ⟨steps, w₁, r, submitted, ?_⟩
  rw [List.filter_append, List.filter_eq_self.2 fun s hs => (submit_acts submitted s hs).1]
  cases r with
  | ok u =>
    obtain ⟨rfl, -⟩ := runs_done_iff.1 ran₁
    exact List.append_nil steps
  | error e =>
    obtain ⟨-, w₂, rest, -, rfl, ran₂⟩ := runs_op_bind_iff.1 ran₁
    obtain ⟨rfl, -⟩ := runs_done_iff.1 ran₂
    exact List.append_nil steps

def handOver (ctx : Context) (event : Event) (asynchronous : Bool) (m : Message) :
    Program h DispatchResult :=
  if asynchronous then do
    let _ ← spawn event.name .publish (.publish ctx m)
    return .ok ()
  else return (← op (.publish ctx m)).mapError .publish

def messageOf (ctx : Context) (event : Event) (plan : DispatchPlan) (body : RawJson)
    (now : Timestamp) (id topic : String) : Message :=
  messageFor id topic plan.key event
    ⟨event.name, body, now, Text.filled (plan.trace.or ctx.trace?)⟩

/-- A delivery to the publisher stops at the first check that fails, and otherwise hands one message
over. -/
theorem runs_deliverExternal {topic : String} (chosen : plan.topic = some topic)
    (ran : (deliverExternal ctx event plan).Runs app meanwhile t w path w' result) :
    (w.settings.publisher = none ∧ result = .error (.publisherMissing event.name) ∧ Looks t path) ∨
      w.settings.publisher ≠ none ∧
        ((∃ e, event.encodeBody = .error e ∧ result = .error (.serialization e) ∧ Looks t path) ∨
          ∃ body now id quiet w₁ rest, event.encodeBody = .ok body ∧ path = quiet ++ rest ∧
            (∀ s ∈ quiet, s.acts = false) ∧
            (handOver ctx event plan.asynchronous (messageOf ctx event plan body now id topic)).Runs
              app meanwhile t w₁ rest w' result) := by
  obtain ⟨-, w₁, rest, -, rfl, ran₁⟩ := runs_op_bind_iff.1 ran
  have look : Looks t [Footstep.performed w (.host .settings)] := Looks.single ⟨rfl, rfl⟩
  split at ran₁
  · next missing =>
    obtain ⟨rfl, rfl, rfl⟩ := runs_done_iff.1 ran₁
    exact .inl ⟨Option.isNone_iff_eq_none.1 missing, rfl, look⟩
  · next present =>
    refine .inr ⟨fun none => present (Option.isNone_iff_eq_none.2 none), ?_⟩
    rw [chosen] at ran₁
    obtain ⟨-, w₂, rest, -, rfl, ran₂⟩ := runs_op_bind_iff.1 ran₁
    unfold Envelope.enclose at ran₂
    cases encoded : event.encodeBody with
    | error e =>
      rw [encoded] at ran₂
      obtain ⟨rfl, rfl, rfl⟩ := runs_done_iff.1 ran₂
      exact .inl ⟨e, rfl, rfl, Looks.append look (Looks.single ⟨rfl, rfl⟩)⟩
    | ok body =>
      rw [encoded] at ran₂
      obtain ⟨-, w₃, rest, -, rfl, ran₃⟩ := runs_op_bind_iff.1 ran₂
      refine .inr ⟨body, _, _, [.performed w (.host .settings), .performed w₁ .now,
        .performed w₂ .messageId], w₃, rest, rfl, rfl, ?_, ran₃⟩
      simp [acts]

/-- A message handed over at once is published once, and one for later submitted once. -/
theorem runs_handOver {m : Message} {asynchronous : Bool}
    (ran : (handOver ctx event asynchronous m).Runs app meanwhile t w path w' result) :
    (asynchronous = false ∧ path = [.performed w (.publish ctx m)] ∧
        result = (w.publish t ctx m).1.mapError .publish) ∨
      asynchronous = true ∧ result = .ok () ∧ ∃ steps w₁ r,
        (submit (.publish ctx m)).Runs app meanwhile t w steps w₁ r ∧ path.filter acts = steps := by
  unfold handOver at ran
  split at ran
  · next later =>
    obtain ⟨first, w₁, accepted, rest, rfl, spawned, ran₁⟩ := runs_bind_iff.1 ran
    obtain ⟨rfl, rfl, rfl⟩ := runs_done_iff.1 ran₁
    rw [List.append_nil]
    exact .inr ⟨later, rfl, runs_spawn spawned⟩
  · next now =>
    obtain ⟨-, w₁, rest, -, rfl, ran₁⟩ := runs_op_bind_iff.1 ran
    obtain ⟨rfl, rfl, rfl⟩ := runs_done_iff.1 ran₁
    exact .inl ⟨Bool.eq_false_iff.2 now, rfl, rfl⟩

/-- However a chain goes on and whichever listeners it reaches, nothing is delivered besides. -/
theorem proceed_delivers_nothing {next : Next h} {r : ListenerResult}
    (ran : (proceed next ctx event).Runs app meanwhile t w path w' r) :
    path.filter delivers = [] := by
  unfold proceed at ran
  split at ran
  · have within := ran.within (callListeners_runsListeners (List.Subset.refl _))
    exact filter_delivers_eq_nil within nofun nofun
  · -- The interceptor is one call, whatever it does inside.
    obtain ⟨inner, w₁, r', rest, -, rfl, ran₁⟩ := runs_call_iff.1 ran
    obtain ⟨rfl, -⟩ := runs_done_iff.1 ran₁
    rfl

/-- A delivery to listeners is one delivery, and fails only as a listener does. -/
theorem deliver_delivers_once (ran : (deliver ctx event).Runs app meanwhile t w path w' result) :
    path.filter delivers = [.performed w (.snapshot event.name)] ∧
      ∃ r, result = outcome event.name r := by
  obtain ⟨w₁, walk, w₂, r, clearing, rfl, proceeded, cleared, outcome⟩ := runs_deliver ran
  refine ⟨?_, r, outcome⟩
  have none : clearing.filter delivers = [] := filter_delivers_eq_nil cleared nofun nofun
  rw [List.filter_cons_of_pos rfl, List.filter_append, proceed_delivers_nothing proceeded, none,
    List.nil_append]

/-- Only the checks before it refuse a dispatch. -/
theorem outcome_not_refusal {name : String} {r : ListenerResult} {e : DispatchError}
    (failed : outcome name r = .error e) : ¬e.IsRefusal := by
  unfold outcome at failed
  split at failed
  · cases failed
  · cases failed
  · cases failed
    exact nofun

theorem published_not_refusal {r : Except PublishError Unit} {e : DispatchError}
    (failed : r.mapError DispatchError.publish = .error e) : ¬e.IsRefusal := by
  cases r with
  | ok u => cases failed
  | error cause =>
    cases failed
    exact nofun

/-- A dispatch that passes its checks acts once, as its plan says: it delivers to the listeners, it
publishes one message, or it submits one job. -/
def ActsAs (app : Application h) (meanwhile : World h → World h → Prop) (t : Thread) (event : Event)
    (plan : DispatchPlan) (path : List (Footstep h)) (result : DispatchResult) : Prop :=
  match plan.driver, plan.asynchronous with
  | .memory, false => (∃ found, path.filter delivers = [.performed found (.snapshot event.name)]) ∧
      ∃ r, result = outcome event.name r
  | .external, false => ∃ found c m, path.filter acts = [.performed found (.publish c m)] ∧
      result = (found.publish t c m).1.mapError .publish
  | driver, true => result = .ok () ∧ ∃ job w₁ w₂ steps r, Carries event driver job ∧
      (submit job).Runs app meanwhile t w₁ steps w₂ r ∧ path.filter acts = steps

theorem ActsAs.not_refusal (acted : ActsAs app meanwhile t event plan path result)
    {e : DispatchError} (failed : result = .error e) : ¬e.IsRefusal := by
  unfold ActsAs at acted
  split at acted
  · obtain ⟨-, r, rfl⟩ := acted
    exact outcome_not_refusal failed
  · obtain ⟨found, c, m, -, rfl⟩ := acted
    exact published_not_refusal failed
  · rw [acted.1] at failed
    cases failed

def carryOut (ctx : Context) (event : Event) (plan : DispatchPlan) : Program h DispatchResult :=
  match plan.driver, plan.asynchronous with
  | .memory, false => deliver (withPlanTrace ctx plan) event
  | .memory, true => do
    let _ ← spawn event.name .dispatch (.dispatch (withPlanTrace ctx plan) event)
    return .ok ()
  | .external, _ => deliverExternal (withPlanTrace ctx plan) event plan

theorem dispatch_eq : dispatch ctx (some event) options = (routeFor event options).bind fun route =>
    (match DispatchPlan.resolve event.name options route with
      | .error e => .done (.error e)
      | .ok plan => carryOut ctx event plan : Program h DispatchResult) := rfl

theorem ActsAs.after_lookup {lookup : List (Footstep h)} (looked : Looks t lookup)
    (acted : ActsAs app meanwhile t event plan path result) :
    ActsAs app meanwhile t event plan (lookup ++ path) result := by
  unfold ActsAs at acted ⊢
  rwa [looked.filter_acts path, looked.filter_delivers path]

theorem runs_carryOut (topic : plan.driver = .external → ∃ topic, plan.topic = some topic)
    (ran : (carryOut ctx event plan).Runs app meanwhile t w path w' result) :
    (∃ e, admitted w.settings.publisher event plan = .error e ∧ result = .error e ∧ Looks t path) ∨
      admitted w.settings.publisher event plan = .ok plan ∧
        ActsAs app meanwhile t event plan path result := by
  unfold carryOut at ran
  unfold admitted ActsAs
  split at ran
  · next memory now =>
    obtain ⟨once, outcome⟩ := deliver_delivers_once ran
    rw [memory, now]
    exact .inr ⟨rfl, ⟨w, once⟩, outcome⟩
  · next memory later =>
    obtain ⟨first, w₁, accepted, rest, rfl, spawned, ran₁⟩ := runs_bind_iff.1 ran
    obtain ⟨rfl, -, rfl⟩ := runs_done_iff.1 ran₁
    obtain ⟨steps, w₂, r, submitted, acted⟩ := runs_spawn spawned
    rw [memory, later, List.append_nil]
    exact .inr ⟨rfl, rfl, _, w, w₂, steps, r, .dispatch _, submitted, acted⟩
  · next external =>
    obtain ⟨topic, chosen⟩ := topic external
    rw [if_pos external, external]
    rcases runs_deliverExternal chosen ran with ⟨missing, failed, looked⟩ | ⟨present, checked⟩
    · rw [if_pos missing]
      exact .inl ⟨_, rfl, failed, looked⟩
    · rw [if_neg present]
      rcases checked with ⟨e, unencodable, failed, looked⟩ | encoded
      · rw [unencodable]
        exact .inl ⟨_, rfl, failed, looked⟩
      · obtain ⟨body, now, id, quiet, w₁, rest, encoded, rfl, silent, ran₁⟩ := encoded
        -- Making the message is no act, so that what acts is the hand-over alone.
        have acting : (quiet ++ rest).filter acts = rest.filter acts := by
          rw [List.filter_append, filter_acts_eq_nil silent, List.nil_append]
        rw [encoded, acting]
        refine .inr ⟨rfl, ?_⟩
        rcases runs_handOver ran₁ with
          ⟨now, rfl, rfl⟩ | ⟨later, rfl, steps, w₂, r, submitted, acted⟩
        · rw [now]
          exact ⟨w₁, _, _, rfl, rfl⟩
        · rw [later]
          exact ⟨rfl, _, w₁, w₂, steps, r, .publish _ _, submitted, acted⟩

/-- A dispatch does what its checks come to. -/
theorem runs_dispatch (fixed : ∀ w w' : World h, meanwhile w w' → w'.settings = w.settings)
    (ran : (dispatch ctx (some event) options).Runs app meanwhile t w path w' result) :
    (∃ e, checked w event options = .error e ∧ result = .error e ∧ Looks t path) ∨
      ∃ plan, checked w event options = .ok plan ∧
        ActsAs app meanwhile t event plan path result := by
  rw [dispatch_eq] at ran
  obtain ⟨lookup, w₁, route, rest, rfl, routed, ran₁⟩ := runs_bind_iff.1 ran
  -- The others may have replaced the table by now, but not the publisher.
  obtain ⟨rfl, settings, looked⟩ := runs_routeFor fixed routed
  unfold checked
  cases resolved : DispatchPlan.resolve event.name options (routeIn w event options) with
  | error e =>
    rw [resolved] at ran₁
    obtain ⟨rfl, -, rfl⟩ := runs_done_iff.1 ran₁
    rw [List.append_nil]
    exact .inl ⟨e, rfl, rfl, looked⟩
  | ok plan =>
    rw [resolved] at ran₁
    rcases runs_carryOut (resolve_topic resolved) ran₁ with ⟨e, refused, failed, looked'⟩ | ⟨passed, acted⟩
    · exact .inl ⟨e, settings ▸ refused, failed, looked.append looked'⟩
    · exact .inr ⟨plan, settings ▸ passed, acted.after_lookup looked⟩

/-- A dispatch without an event does nothing. Any other one is checked for its topic, its publisher
and its encoding, in this order. It is refused exactly when a check fails, and then none of its steps
calls anything or changes the state; otherwise it acts once, as its plan says. -/
theorem dispatch_acts_once (fixed : ∀ w w' : World h, meanwhile w w' → w'.settings = w.settings)
    {event : Option Event}
    (ran : (dispatch ctx event options).Runs app meanwhile t w path w' result) :
    (event = none → path = [] ∧ result = .ok ()) ∧
      ∀ e, event = some e →
        (∀ error, result = .error error ∧ error.IsRefusal ↔ checked w e options = .error error) ∧
        (∀ error, result = .error error → error.IsRefusal → ∀ s ∈ path, s.IsIdle t) ∧
        ∀ plan, checked w e options = .ok plan → ActsAs app meanwhile t e plan path result := by
  constructor
  · rintro rfl
    obtain ⟨rfl, -, rfl⟩ := runs_done_iff.1 ran
    exact ⟨rfl, rfl⟩
  · rintro e rfl
    rcases runs_dispatch fixed ran with ⟨cause, refused, rfl, looked⟩ | ⟨plan, passed, acted⟩
    · refine ⟨fun error => ?_, fun _ _ _ s hs => (looked s hs).1, fun plan passed => ?_⟩
      · rw [refused, Except.error.injEq, Except.error.injEq]
        exact ⟨fun failed => failed.1, fun same => ⟨same, same ▸ checked_refuses refused⟩⟩
      · rw [refused] at passed
        cases passed
    · have unrefused : ∀ error, result = .error error → ¬error.IsRefusal :=
        fun _ failed => acted.not_refusal failed
      refine ⟨fun error => ?_, fun error failed refusal => ?_, fun plan' passed' => ?_⟩
      · rw [passed]
        exact ⟨fun failed => absurd failed.2 (unrefused error failed.1), nofun⟩
      · exact absurd refusal (unrefused error failed)
      · rw [passed] at passed'
        cases passed'
        exact acted

/-- No step of any thread changes the settings. -/
theorem settings_answer (w : World h) (t : Thread) (o : Op h) :
    (w.answer t o).2.settings = w.settings := by
  cases o with
  | host o =>
    cases o with
    | register type =>
      obtain ⟨types, after⟩ := w.register_concerns t type
      exact congrArg (·.settings) after
    | _ => rfl
  | publish ctx m =>
    obtain ⟨bus, buffer, trail, after⟩ := w.publish_concerns t ctx m
    exact congrArg (·.settings) after
  | _ => rfl

def Stirs (w w' : World h) : Prop := w' = w ∨ ∃ t o, w' = (w.answer t o).2

theorem Stirs.settings {w w' : World h} (stirred : Stirs w w') : w'.settings = w.settings := by
  rcases stirred with rfl | ⟨t, o, rfl⟩
  · rfl
  · exact settings_answer w t o

def brokered : World bareHost := .start default (some .bus) ()

def bodiless : Event := .foreign ⟨"n", .epoch, .inr "not encodable"⟩

def toTopic : DispatchOptions := .ofChoices [.external "t", .asynchronous true]

/-- Another thread closes the pool meanwhile, and the dispatch fails before it could notice. -/
theorem bodiless_refused_unsubmitted :
    ∃ path w', (dispatch .background (some bodiless) toTopic).Runs bare Stirs .main brokered path w'
        (.error (.serialization (.unencodable "not encodable"))) ∧
      w'.pool.closed ∧ path.length = 2 ∧ ∀ s ∈ path, s.IsIdle .main := by
  let closed := (brokered.answer (.worker 0) .close).2
  have ran : (dispatch .background (some bodiless) toTopic).Runs bare Stirs .main brokered
      [.performed brokered (.host .settings), .performed closed .now] closed
      (.error (.serialization (.unencodable "not encodable"))) :=
    .perform rfl (.inr ⟨.worker 0, .close, rfl⟩) (.perform rfl (.inl rfl) (.done _ _))
  obtain ⟨-, some⟩ := dispatch_acts_once (fun _ _ => Stirs.settings) ran
  obtain ⟨-, idle, -⟩ := some bodiless rfl
  exact ⟨_, closed, ran, rfl, rfl, idle _ rfl (.encoding _)⟩

end Delivery
end EventDispatch
