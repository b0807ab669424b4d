import EventDispatch.Proofs.Options.Chosen

namespace EventDispatch

namespace Text

def orEmpty (on : Bool) (s : Option String) : Option String := if on then s.or (some "") else s

theorem filled_orEmpty (on : Bool) (s : Option String) : filled (orEmpty on s) = filled s := by
  cases on with
  | false => rfl
  | true => cases s <;> rfl

theorem orEmpty_of_not {on : Bool} {s : Option String} (kept : ¬(on ∧ s = none)) : orEmpty on s = s := by
  cases on with
  | false => rfl
  | true =>
    cases s with
    | none => exact absurd ⟨rfl, rfl⟩ kept
    | some text => rfl

end Text

/-- The options with the empty text for the topic, the key and the trace, or for some of these, where
they are unset. -/
def DispatchOptions.emptied (o : DispatchOptions) (topic key trace : Bool) : DispatchOptions :=
  { o with
    topic := Text.orEmpty topic o.topic
    key := Text.orEmpty key o.key
    trace := Text.orEmpty trace o.trace }

namespace DispatchPlan

open DispatchOptions

/-- The driver that the caller chose, else that of the route, else memory. -/
def driverFor (cs : List Choice) (route : Option Route) : Driver :=
  ((last Choice.driver? cs).or (route.map (·.driver))).getD .memory

/-- The topic of the route, which counts unless the caller chose a driver. -/
def routedTopic (cs : List Choice) (route : Option Route) : Option String :=
  if (last Choice.driver? cs).isSome then none else Text.filled (route.bind (·.topic))

def settle (event : String) (o : DispatchOptions) (driver : Driver) (topic : Option String) :
    Except DispatchError DispatchPlan :=
  if driver = .external ∧ topic = none then .error (.topicRequired event)
  else .ok ⟨driver, topic, (Text.filled o.key).getD event, o.asynchronous, Text.filled o.trace⟩

variable {event : String} {cs : List Choice} {o : DispatchOptions} {route : Option Route}

theorem resolve_eq (event : String) (o : DispatchOptions) (route : Option Route) :
    resolve event o route = settle event o (target o route).1 (Text.filled (target o route).2) := rfl

theorem target_eq (o : DispatchOptions) (route : Option Route) :
    target o route = ((o.driver.or (route.map (·.driver))).getD .memory,
      o.topic.or (if o.driver.isSome then none else route.bind (·.topic))) := by
  unfold target
  cases o.driver with
  | some driver => simp
  | none => cases route <;> simp

theorem target_ofChoices (cs : List Choice) (route : Option Route) :
    target (ofChoices cs) route = (driverFor cs route, (last Choice.topic? cs).or
      (if (last Choice.driver? cs).isSome then none else route.bind (·.topic))) := by
  rw [target_eq, ofChoices_eq, driverFor]

/-- Only an empty topic of the caller's own keeps the route's from being looked at. -/
theorem filled_topic (given : last Choice.topic? cs ≠ some "") :
    Text.filled (target (ofChoices cs) route).2 =
      (last Choice.topic? cs).or (routedTopic cs route) := by
  rw [target_ofChoices, routedTopic]
  cases chosen : last Choice.topic? cs with
  | none => split <;> rfl
  | some topic =>
    rw [chosen] at given
    exact Text.filled_eq_self given

theorem target_of_driver (explicit : o.driver.isSome) (route route' : Option Route) :
    target o route = target o route' := by
  obtain ⟨driver, chosen⟩ := Option.isSome_iff_exists.1 explicit
  simp only [target, chosen]

theorem settle_external {driver : Driver} {topic : Option String} {plan : DispatchPlan}
    (settled : settle event o driver topic = .ok plan) (external : plan.driver = .external) :
    plan.topic = topic ∧ topic ≠ none := by
  unfold settle at settled
  split at settled
  · cases settled
  · next both =>
    cases settled
    exact ⟨rfl, fun absent => both ⟨external, absent⟩⟩

/-- Of the choices that set an option the last one counts. With a driver chosen the route does not
matter. Else the plan has the route's driver, or memory without a route, and the route's topic where
the caller has named none. An external plan has a topic: where it would have none, the dispatch is
refused. Neighbouring choices may change places if they set different options. -/
theorem resolve_by_last_choices (event : String) (cs : List Choice) :
    (∀ route, ∃ topic,
      (last Choice.topic? cs ≠ some "" →
        topic = (last Choice.topic? cs).or (routedTopic cs route)) ∧
      topic ≠ some "" ∧
      resolve event (ofChoices cs) route =
        if driverFor cs route = .external ∧ topic = none then .error (.topicRequired event)
        else .ok {
          driver := driverFor cs route
          topic
          key := (Text.filled (last Choice.key? cs)).getD event
          asynchronous := (last Choice.asynchronous? cs).getD false
          trace := Text.filled (last Choice.trace? cs) }) ∧
    (∀ route plan, resolve event (ofChoices cs) route = .ok plan → plan.driver = .external →
      ∃ topic, plan.topic = some topic ∧ topic ≠ "") ∧
    ((last Choice.driver? cs).isSome → ∀ route route',
      resolve event (ofChoices cs) route = resolve event (ofChoices cs) route') ∧
    ∀ before c d after, cs = before ++ c :: d :: after → c.Apart d →
      ofChoices (before ++ d :: c :: after) = ofChoices cs := by
  refine ⟨fun route => ?_, fun route plan resolved external => ?_, fun explicit route route' => ?_, ?_⟩
  · refine ⟨_, fun given => filled_topic given, Text.filled_ne_empty _, ?_⟩
    rw [resolve_eq, target_ofChoices, settle, ofChoices_eq]
  · obtain ⟨same, present⟩ := settle_external resolved external
    obtain ⟨topic, some⟩ := Option.ne_none_iff_exists'.1 present
    refine ⟨topic, same.trans some, fun empty => ?_⟩
    exact Text.filled_ne_empty _ (some.trans (congrArg _ empty))
  · have chosen : (ofChoices cs).driver.isSome := by rwa [ofChoices_eq]
    rw [resolve_eq, resolve_eq, target_of_driver chosen route route']
  · rintro before c d after rfl apart
    exact ofChoices_swap apart

def rushed : List Choice :=
  [.external "audit", .asynchronous true, .key "", .driver .external, .topic "orders", .trace "t"]

/-- The route is external as well and has another topic, which would not count even if the caller had
named none. -/
theorem rushed_resolved :
    resolve "order.created" (ofChoices rushed) (some ⟨.external, some "late"⟩) =
      .ok ⟨.external, some "orders", "order.created", true, some "t"⟩ := by
  obtain ⟨every, -⟩ := resolve_by_last_choices "order.created" rushed
  obtain ⟨topic, chosen, -, resolved⟩ := every (some ⟨.external, some "late"⟩)
  obtain rfl := chosen (by decide)
  exact resolved

theorem settle_emptied (topic key trace : Bool) (driver : Driver) (chosen : Option String) :
    settle event (o.emptied topic key trace) driver chosen = settle event o driver chosen := by
  simp only [settle, emptied, Text.filled_orEmpty]

theorem settle_inj {driver : Driver} {topic topic' : Option String} :
    settle event o driver topic = settle event o driver topic' ↔ topic = topic' := by
  constructor
  · intro same
    unfold settle at same
    split at same
    · next none =>
      split at same
      · next none' => rw [none.2, none'.2]
      · cases same
    · split at same
      · cases same
      · exact congrArg (·.topic) (Except.ok.inj same)
  · exact congrArg _

abbrev Blanks (topic : Bool) (o : DispatchOptions) : Prop := topic ∧ o.topic = none

theorem target_emptied_driver (topic key trace : Bool) (o : DispatchOptions) (route : Option Route) :
    (target (o.emptied topic key trace) route).1 = (target o route).1 := by
  rw [target_eq, target_eq]
  rfl

theorem filled_target_emptied (topic key trace : Bool) (o : DispatchOptions) (route : Option Route) :
    Text.filled (target (o.emptied topic key trace) route).2 =
      if Blanks topic o then none else Text.filled (target o route).2 := by
  rw [target_eq, target_eq]
  show Text.filled ((Text.orEmpty topic o.topic).or _) = _
  by_cases blanks : Blanks topic o
  · rw [if_pos blanks, blanks.1, blanks.2]
    rfl
  · rw [if_neg blanks, Text.orEmpty_of_not blanks]
    rfl

/-- A topic is found where the caller has chosen none exactly when the route has one that counts. -/
theorem filled_target_eq_none_iff (unset : o.topic = none) :
    Text.filled (target o route).2 = none ↔
      (o.driver = none → ∀ r, route = some r → Text.filled r.topic = none) := by
  rw [target_eq, unset, Option.none_or]
  cases o.driver with
  | some driver => simp [Text.filled]
  | none => cases route <;> simp [Text.filled]

/-- To set the key, the trace or the topic to the empty text where it is unset changes nothing but in
one case: the caller chose no driver, the matched route has a topic, and it is the topic that is set.
Then the outcome is that of the same route without its topic. -/
theorem resolve_emptied_iff (event : String) (o : DispatchOptions) (route : Option Route)
    (topic key trace : Bool) :
    (resolve event (o.emptied topic key trace) route = resolve event o route ↔
      ¬(topic ∧ o.topic = none ∧ o.driver = none ∧ ∃ r, route = some r ∧ Text.filled r.topic ≠ none)) ∧
    resolve event (o.emptied topic key trace) route = resolve event o
      (if topic ∧ o.topic = none then route.map fun r => { r with topic := none } else route) := by
  have outcome : resolve event (o.emptied topic key trace) route =
      settle event o (target o route).1
        (if Blanks topic o then none else Text.filled (target o route).2) := by
    rw [resolve_eq, settle_emptied, target_emptied_driver, filled_target_emptied]
  constructor
  · rw [outcome, resolve_eq, settle_inj]
    by_cases blanks : Blanks topic o
    · rw [if_pos blanks, eq_comm, filled_target_eq_none_iff blanks.2]
      simp [blanks.1, blanks.2]
    · rw [if_neg blanks]
      exact ⟨fun _ changed => blanks ⟨changed.1, changed.2.1⟩, fun _ => rfl⟩
  · rw [outcome, resolve_eq]
    by_cases blanks : Blanks topic o
    · have topicless : Text.filled (target o (route.map fun r => { r with topic := none })).2 = none := by
        rw [filled_target_eq_none_iff blanks.2]
        intro _ r some
        obtain ⟨r', -, rfl⟩ := Option.map_eq_some_iff.1 some
        rfl
      rw [if_pos blanks, if_pos blanks, topicless, target_eq, target_eq, Option.map_map]
      rfl
    · rw [if_neg blanks, if_neg blanks]

/-- An empty topic of the caller's is not the same as none: the route names a topic, and the dispatch is
refused for the want of one. -/
theorem empty_topic_refused :
    resolve "order.created" (ofChoices []) (some ⟨.external, some "orders"⟩) =
        .ok ⟨.external, some "orders", "order.created", false, none⟩ ∧
      resolve "order.created" (ofChoices [.topic ""]) (some ⟨.external, some "orders"⟩) =
        .error (.topicRequired "order.created") ∧
      ofChoices [.topic ""] = (ofChoices []).emptied true false false :=
  ⟨rfl, rfl, rfl⟩

end DispatchPlan
end EventDispatch
