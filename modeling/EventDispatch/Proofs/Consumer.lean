import EventDispatch.Dispatch.Consumer
import EventDispatch.Dispatch.Start
import EventDispatch.Proofs.Broker.Undisturbed

namespace EventDispatch

variable {h : Host} {α β : Type}

abbrev Exchange (h : Host) := (r : Request h) × r.Answer

namespace Script

/-- Thread `t` runs a script in state `w`, asks what `talk` says, and ends in state `w'`. What the others
do after a step is a state that `meanwhile` allows. -/
inductive Transcribes (app : Application h) (meanwhile : World h → World h → Prop) (t : Thread) :
    Script h α → World h → List (Exchange h) → World h → α → Prop where
  | done (a : α) (w : World h) : Transcribes app meanwhile t (.done a) w [] w a
  | request {r : Request h} {next : r.Answer → Script h α} {w w₁ w' : World h}
      {path : List (Footstep h)} {answer : r.Answer} {talk : List (Exchange h)} {a : α}
      (asked : r.program.Runs app meanwhile t w path w₁ answer)
      (rest : Transcribes app meanwhile t (next answer) w₁ talk w' a) :
      Transcribes app meanwhile t (.request r next) w (⟨r, answer⟩ :: talk) w' a

variable {app : Application h} {meanwhile : World h → World h → Prop} {t : Thread}
  {w w' : World h} {talk : List (Exchange h)}

theorem transcribes_done_iff {a b : α} :
    (Script.done a).Transcribes app meanwhile t w talk w' b ↔ talk = [] ∧ w' = w ∧ b = a := by
  constructor
  · intro ran
    cases ran
    exact ⟨rfl, rfl, rfl⟩
  · rintro ⟨rfl, rfl, rfl⟩
    exact .done b w'

theorem transcribes_request_iff {r : Request h} {next : r.Answer → Script h α} {a : α} :
    (Script.request r next).Transcribes app meanwhile t w talk w' a ↔
      ∃ path w₁ answer rest, talk = ⟨r, answer⟩ :: rest ∧
        r.program.Runs app meanwhile t w path w₁ answer ∧
        (next answer).Transcribes app meanwhile t w₁ rest w' a := by
  constructor
  · intro ran
    cases ran with
    | request asked rest => exact ⟨_, _, _, _, rfl, asked, rest⟩
  · rintro ⟨path, w₁, answer, rest, rfl, asked, ran⟩
    exact .request asked ran

/-- These are the runs of the script's program. -/
theorem runs_iff_transcribes {p : Script h α} {a : α} :
    (∃ path, p.program.Runs app meanwhile t w path w' a) ↔
      ∃ talk, p.Transcribes app meanwhile t w talk w' a := by
  induction p generalizing w with
  | done b =>
    simp only [program, Program.runs_done_iff, transcribes_done_iff, exists_eq_left]
  | panic e =>
    constructor
    · rintro ⟨path, ran⟩
      exact absurd ran Program.not_runs_panic
    · rintro ⟨talk, ran⟩
      cases ran
  | request r next ih =>
    constructor
    · rintro ⟨path, ran⟩
      obtain ⟨first, w₁, answer, rest, rfl, asked, after⟩ := Program.runs_bind_iff.1 ran
      obtain ⟨talk, told⟩ := (ih answer).1 ⟨rest, after⟩
      exact ⟨_, .request asked told⟩
    · rintro ⟨talk, ran⟩
      obtain ⟨path, w₁, answer, rest, rfl, asked, after⟩ := transcribes_request_iff.1 ran
      obtain ⟨path', told⟩ := (ih answer).2 ⟨rest, after⟩
      exact ⟨_, Program.runs_bind_iff.2 ⟨path, w₁, answer, path', rfl, asked, told⟩⟩

theorem transcribes_bind_iff {p : Script h α} {f : α → Script h β} {b : β} :
    (p.bind f).Transcribes app meanwhile t w talk w' b ↔
      ∃ first w₁ a rest, talk = first ++ rest ∧ p.Transcribes app meanwhile t w first w₁ a ∧
        (f a).Transcribes app meanwhile t w₁ rest w' b := by
  induction p generalizing w talk with
  | done a =>
    constructor
    · intro ran
      exact ⟨[], w, a, talk, rfl, .done a w, ran⟩
    · rintro ⟨first, w₁, a', rest, rfl, begun, ended⟩
      obtain ⟨rfl, rfl, rfl⟩ := transcribes_done_iff.1 begun
      exact ended
  | panic e =>
    constructor
    · intro ran
      cases ran
    · rintro ⟨first, w₁, a', rest, rfl, begun, -⟩
      cases begun
  | request r next ih =>
    constructor
    · intro ran
      obtain ⟨path, w₁, answer, tail, rfl, asked, after⟩ := transcribes_request_iff.1 ran
      obtain ⟨first, w₂, a, rest, rfl, begun, ended⟩ := (ih answer).1 after
      exact ⟨_, w₂, a, rest, rfl, .request asked begun, ended⟩
    · rintro ⟨first, w₂, a, rest, rfl, begun, ended⟩
      obtain ⟨path, w₁, answer, tail, rfl, asked, after⟩ := transcribes_request_iff.1 begun
      exact .request asked ((ih answer).2 ⟨tail, w₂, a, rest, rfl, after, ended⟩)

/-- A step of its own in front of a script. -/
theorem transcribes_act_bind_iff {o : HostOp h} {f : o.Answer → Script h β} {b : β} :
    ((act o).bind f).Transcribes app meanwhile t w talk w' b ↔
      w.isReady t (.host o) ∧ ∃ w₁ rest, meanwhile (w.answerHost t o).2 w₁ ∧
        talk = ⟨.host o, (w.answerHost t o).1⟩ :: rest ∧
        (f (w.answerHost t o).1).Transcribes app meanwhile t w₁ rest w' b := by
  constructor
  · intro ran
    obtain ⟨path, w₁, answer, rest, rfl, asked, after⟩ := transcribes_request_iff.1 ran
    obtain ⟨ready, w₂, steps, others, rfl, ended⟩ := Program.runs_perform_iff.1 asked
    obtain ⟨rfl, rfl, rfl⟩ := Program.runs_done_iff.1 ended
    exact ⟨ready, w₁, rest, others, rfl, after⟩
  · rintro ⟨ready, w₁, rest, others, rfl, after⟩
    exact .request (.perform ready others (.done _ _)) after

end Script

namespace Consumer

open Script

def received (i : Nat) (talk : List (Exchange h)) : List Message :=
  talk.filterMap fun
    | ⟨.host (.bus (.poll j)), some m⟩ => if j = i then some m else none
    | _ => none

def consumed (talk : List (Exchange h)) : List (Message × Except ConsumeError Unit) :=
  talk.filterMap fun
    | ⟨.consume _ m, r⟩ => some (m, r)
    | _ => none

def accepted (ms : List (Message × Except ConsumeError Unit)) : List String :=
  ms.filterMap fun
    | (m, .ok ()) => some m.id
    | (_, .error _) => none

def refused (ms : List (Message × Except ConsumeError Unit)) : List (String × String) :=
  ms.filterMap fun
    | (_, .ok ()) => none
    | (m, .error e) => some (m.id, e.message)

/-- A consumer is at the head of its loop: it has not begun yet, or a round is over, or it let the other
threads go first. It may be told there to stop. -/
inductive AtHead (app : Application h) (meanwhile : World h → World h → Prop) (t : Thread)
    (inlet : Inlet h) (ctx : Context) (w : World h) :
    List (Exchange h) → ConsumerStats → World h → Prop where
  | start : AtHead app meanwhile t inlet ctx w [] .zero w
  | round {talk more : List (Exchange h)} {stats : ConsumerStats} {w₁ w₂ : World h} {r : Round}
      (before : AtHead app meanwhile t inlet ctx w talk stats w₁)
      (ran : (round inlet ctx).Transcribes app meanwhile t w₁ more w₂ r) :
      AtHead app meanwhile t inlet ctx w (talk ++ more) (stats.after r) w₂
  | pause {talk more : List (Exchange h)} {stats : ConsumerStats} {w₁ w₂ : World h} {u : Unit}
      (before : AtHead app meanwhile t inlet ctx w talk stats w₁)
      (ran : (act .pause).Transcribes app meanwhile t w₁ more w₂ u) :
      AtHead app meanwhile t inlet ctx w (talk ++ more) stats w₂

/-- What a consumer has taken from subscriber `x` of a bus with this log, and settled with it. -/
structure Settled (i : Nat) (topic : Option String) (talk : List (Exchange h))
    (stats : ConsumerStats) (log : List Message) (x : Subscriber) : Prop where
  topic : x.topic = topic
  position : x.position ≤ log.length
  taken : received i talk = (log.take x.position).filter x.wants
  delivered : (consumed talk).map (·.1) = received i talk
  acknowledged : x.acknowledged = accepted (consumed talk)
  rejected : x.rejected = refused (consumed talk)
  handled : stats.handled = x.acknowledged.length
  failed : stats.failed = x.rejected.length

section Lists

variable {i : Nat} {talk more : List (Exchange h)}

theorem received_append : received i (talk ++ more) = received i talk ++ received i more :=
  List.filterMap_append

theorem consumed_append : consumed (talk ++ more) = consumed talk ++ consumed more :=
  List.filterMap_append

theorem accepted_append {ms ns : List (Message × Except ConsumeError Unit)} :
    accepted (ms ++ ns) = accepted ms ++ accepted ns :=
  List.filterMap_append

theorem refused_append {ms ns : List (Message × Except ConsumeError Unit)} :
    refused (ms ++ ns) = refused ms ++ refused ns :=
  List.filterMap_append

theorem received_poll (found : Option Message) :
    received i [(⟨.host (.bus (.poll i)), found⟩ : Exchange h)] = found.toList := by
  cases found with
  | none => rfl
  | some m => simp [received]

end Lists

variable {app : Application h} {t : Thread} {i : Nat} {topic : Option String} {ctx : Context}
  {stats : ConsumerStats} {w w₁ w' : World h} {talk more : List (Exchange h)} {x y : Subscriber}

/-- A poll goes on where the subscriber stands, and returns what it wants of the part that it reads. -/
theorem received_of_poll {log : List Message} (position : x.position ≤ log.length) :
    (x.poll log).2.position ≤ log.length ∧
      (log.take (x.poll log).2.position).filter x.wants =
        (log.take x.position).filter x.wants ++ (x.poll log).1.toList := by
  obtain ⟨le, le_max, found, -⟩ := x.poll_spec log
  refine ⟨by omega, ?_⟩
  have parts := stretch_append log (Nat.zero_le x.position) le
  rw [stretch_zero, stretch_zero] at parts
  rw [← parts, List.filter_append, found]

/-- Where a subscriber stands in a log, it stands in a longer one. -/
theorem Settled.grow {log log' : List Message} (settled : Settled i topic talk stats log x)
    (longer : log <+: log') : Settled i topic talk stats log' x where
  topic := settled.topic
  position := Nat.le_trans settled.position longer.length_le
  taken := by
    obtain ⟨rest, rfl⟩ := longer
    rw [List.take_append_of_le_length settled.position]
    exact settled.taken
  delivered := settled.delivered
  acknowledged := settled.acknowledged
  rejected := settled.rejected
  handled := settled.handled
  failed := settled.failed

/-- What was taken besides is settled besides. -/
theorem Settled.append {log : List Message} {stats' : ConsumerStats}
    (settled : Settled i topic talk stats log x) (same : y.topic = x.topic)
    (position : y.position ≤ log.length)
    (taken : (log.take y.position).filter x.wants =
      (log.take x.position).filter x.wants ++ received i more)
    (delivered : (consumed more).map (·.1) = received i more)
    (acknowledged : y.acknowledged = x.acknowledged ++ accepted (consumed more))
    (rejected : y.rejected = x.rejected ++ refused (consumed more))
    (handled : stats'.handled = stats.handled + (accepted (consumed more)).length)
    (failed : stats'.failed = stats.failed + (refused (consumed more)).length) :
    Settled i topic (talk ++ more) stats' log y where
  topic := same.trans settled.topic
  position := position
  taken := by
    have wants : y.wants = x.wants := by
      funext m
      simp only [Subscriber.wants, same]
    rw [wants, taken, received_append, settled.taken]
  delivered := by
    rw [consumed_append, List.map_append, received_append, settled.delivered, delivered]
  acknowledged := by rw [acknowledged, consumed_append, accepted_append, settled.acknowledged]
  rejected := by rw [rejected, consumed_append, refused_append, settled.rejected]
  handled := by rw [handled, settled.handled, acknowledged, List.length_append]
  failed := by rw [failed, settled.failed, rejected, List.length_append]

theorem Settled.idle {log : List Message} (settled : Settled i topic talk stats log x)
    (nothing : received i more = []) (neither : consumed more = []) :
    Settled i topic (talk ++ more) stats log x := by
  apply settled.append rfl settled.position
  all_goals simp [nothing, neither, accepted, refused]

def SettledIn (i : Nat) (topic : Option String) (talk : List (Exchange h)) (stats : ConsumerStats)
    (w : World h) (x : Subscriber) : Prop :=
  w.bus.subscribers[i]? = some x ∧ Settled i topic talk stats w.bus.log x

theorem SettledIn.undisturbed (settled : SettledIn i topic talk stats w x)
    (others : w.Undisturbed i w') : SettledIn i topic talk stats w' x :=
  ⟨others.subscriber x settled.1, settled.2.grow others.log⟩

def settledWith (y : Subscriber) (m : Message) (result : Except ConsumeError Unit) : Subscriber :=
  { y with
    acknowledged := y.acknowledged ++ accepted [(m, result)]
    rejected := y.rejected ++ refused [(m, result)] }

/-- A message is settled by one call, which is counted. -/
theorem settle_settles (stats : ConsumerStats) {m : Message} {result : Except ConsumeError Unit}
    {r : Round} (here : w.bus.subscribers[i]? = some y)
    (ran : (settle (.ofBus i) m result).Transcribes app (World.Undisturbed i) t w more w' r) :
    w.bus.log <+: w'.bus.log ∧ w'.bus.subscribers[i]? = some (settledWith y m result) ∧
      received i more = [] ∧ consumed more = [] ∧
      (stats.after r).handled = stats.handled + (accepted [(m, result)]).length ∧
      (stats.after r).failed = stats.failed + (refused [(m, result)]).length := by
  cases result with
  | ok u =>
    obtain ⟨-, w₁, rest, others, rfl, ran₁⟩ :=
      (transcribes_act_bind_iff (o := .bus (.ack i m.id))).1 ran
    obtain ⟨rfl, rfl, rfl⟩ := transcribes_done_iff.1 ran₁
    have own : (w.answerHost t (.bus (.ack i m.id))).2.bus.subscribers[i]? =
        some (settledWith y m (.ok u)) := by
      simp [World.answerHost, Bus.answer, Bus.ack, here, settledWith, accepted, refused]
    exact ⟨others.log, others.subscriber _ own, rfl, rfl, rfl, rfl⟩
  | error e =>
    obtain ⟨-, w₁, rest, others, rfl, ran₁⟩ := transcribes_act_bind_iff.1 ran
    obtain ⟨-, w₂, rest, others', rfl, ran₂⟩ :=
      (transcribes_act_bind_iff (o := .bus (.nack i m.id e.message))).1 ran₁
    obtain ⟨rfl, rfl, rfl⟩ := transcribes_done_iff.1 ran₂
    have there : w₁.bus.subscribers[i]? = some y := others.subscriber y here
    have own : (w₁.answerHost t (.bus (.nack i m.id e.message))).2.bus.subscribers[i]? =
        some (settledWith y m (.error e)) := by
      simp [World.answerHost, Bus.answer, Bus.nack, there, settledWith, accepted, refused]
    exact ⟨others.log.trans others'.log, others'.subscriber _ own, rfl, rfl, rfl, rfl⟩

/-- A poll answers from where the subscriber stands, and moves it on. -/
theorem answerHost_poll (t : Thread) (here : w.bus.subscribers[i]? = some x) :
    (w.answerHost t (.bus (.poll i))).1 = (x.poll w.bus.log).1 ∧
      (w.answerHost t (.bus (.poll i))).2.bus.subscribers[i]? = some (x.poll w.bus.log).2 := by
  have subscriber := Bus.subscriber_of_some here
  have inside : i < w.bus.subscribers.length := (List.getElem?_eq_some_iff.1 here).1
  constructor
  · simp only [World.answerHost, Bus.answer, Bus.poll, subscriber]
  · simp only [World.answerHost, Bus.answer, Bus.poll, subscriber, List.getElem?_set_self inside]

/-- A round takes one message and settles it, or takes none. -/
theorem round_settles {r : Round} (off : app.KeepsOff i) (settled : SettledIn i topic talk stats w x)
    (ran : (round (.ofBus i) ctx).Transcribes app (World.Undisturbed i) t w more w' r) :
    ∃ y, SettledIn i topic (talk ++ more) (stats.after r) w' y := by
  obtain ⟨-, w₁, rest, others, rfl, ran₁⟩ := transcribes_act_bind_iff.1 ran
  have settled₁ := settled.undisturbed others
  -- A consumer whose context is cancelled does not poll.
  split at ran₁
  · obtain ⟨rfl, rfl, rfl⟩ := transcribes_done_iff.1 ran₁
    exact ⟨x, settled₁.1, settled₁.2.idle rfl rfl⟩
  · obtain ⟨-, w₂, rest, others, rfl, ran₂⟩ :=
      (transcribes_act_bind_iff (o := .bus (.poll i))).1 ran₁
    obtain ⟨answer, own⟩ := answerHost_poll t settled₁.1
    have there := others.subscriber _ own
    have longer : w₁.bus.log <+: w₂.bus.log := others.log
    obtain ⟨within, taken⟩ := received_of_poll settled₁.2.position
    have polled := received_poll (h := h) (i := i) (x.poll w₁.bus.log).1
    rw [answer] at ran₂ ⊢
    cases found : (x.poll w₁.bus.log).1 with
    | none =>
      rw [found] at ran₂ taken
      obtain ⟨rfl, rfl, rfl⟩ := transcribes_done_iff.1 ran₂
      refine ⟨_, there, Settled.grow ?_ longer⟩
      exact settled₁.2.append rfl within taken rfl (List.append_nil _).symm (List.append_nil _).symm
        rfl rfl
    | some m =>
      rw [found] at ran₂ taken polled
      obtain ⟨path, w₃, result, rest, rfl, asked, ran₃⟩ :=
        (transcribes_request_iff (r := .consume ctx m)).1 ran₂
      -- The delivery keeps off the subscriber, so the message is settled where the poll left it.
      have spared : w₂.Undisturbed i w₃ :=
        Program.Runs.undisturbed off (Delivery.isInner_consume ctx m).keepsOff asked
      obtain ⟨longer', here, nothing, neither, handled, failed⟩ :=
        settle_settles stats (spared.subscriber _ there) ran₃
      refine ⟨_, here, Settled.grow ?_ (longer.trans (spared.log.trans longer'))⟩
      have one : received i (⟨.host (.isCancelled ctx), (w.answerHost t (.isCancelled ctx)).1⟩ ::
          ⟨.host (.bus (.poll i)), some m⟩ :: ⟨.consume ctx m, result⟩ :: rest) = [m] := by
        simp only [received] at nothing
        simp [received, nothing]
      have own : consumed (⟨.host (.isCancelled ctx), (w.answerHost t (.isCancelled ctx)).1⟩ ::
          ⟨.host (.bus (.poll i)), some m⟩ :: ⟨.consume ctx m, result⟩ :: rest) = [(m, result)] := by
        simp only [consumed] at neither
        simp [consumed, neither]
      apply settled₁.2.append
      · rfl
      · exact within
      · rw [one]
        exact taken
      · rw [own, one]
        rfl
      · rw [own]
        rfl
      · rw [own]
        rfl
      · rw [own]
        exact handled
      · rw [own]
        exact failed

theorem pause_settles {u : Unit} (settled : SettledIn i topic talk stats w x)
    (ran : (act .pause).Transcribes app (World.Undisturbed i) t w more w' u) :
    SettledIn i topic (talk ++ more) stats w' x := by
  obtain ⟨-, w₁, rest, others, rfl, ran₁⟩ := (transcribes_act_bind_iff (f := Script.done)).1 ran
  obtain ⟨rfl, rfl, -⟩ := transcribes_done_iff.1 ran₁
  have settled₁ := settled.undisturbed others
  exact ⟨settled₁.1, settled₁.2.idle rfl rfl⟩

theorem atHead_settled (off : app.KeepsOff i) (new : w.bus.subscribers[i]? = some (.fresh topic))
    (at_head : AtHead app (World.Undisturbed i) t (.ofBus i) ctx w talk stats w') :
    ∃ x, SettledIn i topic talk stats w' x := by
  induction at_head with
  | start => exact ⟨.fresh topic, new, rfl, Nat.zero_le _, rfl, rfl, rfl, rfl, rfl, rfl⟩
  | round before ran ih =>
    obtain ⟨x, settled⟩ := ih
    exact round_settles off settled ran
  | pause before ran ih =>
    obtain ⟨x, settled⟩ := ih
    exact ⟨x, pause_settles settled ran⟩

/-- The loop is at its head when it ends. -/
theorem atHead_of_rounds {meanwhile : World h → World h → Prop} {inlet : Inlet h}
    {patience left idle : Nat} {stats' : ConsumerStats}
    (before : AtHead app meanwhile t inlet ctx w talk stats w₁)
    (ran : (rounds inlet ctx patience left idle stats).Transcribes app meanwhile t w₁ more w' stats') :
    AtHead app meanwhile t inlet ctx w (talk ++ more) stats' w' := by
  induction left, idle, stats using rounds.induct patience generalizing talk w₁ more with
  | case1 idle stats =>
    rw [rounds] at ran
    obtain ⟨rfl, rfl, rfl⟩ := transcribes_done_iff.1 ran
    rw [List.append_nil]
    exact before
  | case2 left idle stats again next =>
    rw [rounds.eq_def] at ran
    obtain ⟨first, w₂, r, rest, rfl, begun, ran₁⟩ := transcribes_bind_iff.1 ran
    have after := before.round begun
    rw [← List.append_assoc]
    cases r with
    | cancelled =>
      obtain ⟨rfl, rfl, rfl⟩ := transcribes_done_iff.1 ran₁
      rw [List.append_nil]
      exact after
    | idle =>
      cases idle with
      | zero =>
        obtain ⟨rfl, rfl, rfl⟩ := transcribes_done_iff.1 ran₁
        rw [List.append_nil]
        exact after
      | succ idle =>
        obtain ⟨paused, w₃, u, tail, rfl, waited, ran₂⟩ := transcribes_bind_iff.1 ran₁
        rw [← List.append_assoc]
        exact again (after.pause waited) ran₂
    | _ => exact next _ after ran₁

/-- At every head of its loop, and when it ends, a consumer has settled all that it took, each message
once, and has counted how. What it took is what its subscriber wants of the log up to its position, in
order and each message once, whatever is published meanwhile and wherever the loop is told to stop. -/
theorem settled_at_head (off : app.KeepsOff i) (new : w.bus.subscribers[i]? = some (.fresh topic)) :
    (∀ talk stats w', AtHead app (World.Undisturbed i) t (.ofBus i) ctx w talk stats w' →
      ∃ x, w'.bus.subscribers[i]? = some x ∧ Settled i topic talk stats w'.bus.log x) ∧
    ∀ patience left idle talk stats w',
      (rounds (.ofBus i) ctx patience left idle .zero).Transcribes app (World.Undisturbed i) t w talk w'
        stats →
      ∃ x, w'.bus.subscribers[i]? = some x ∧ Settled i topic talk stats w'.bus.log x := by
  constructor
  · intro talk stats w' at_head
    exact atHead_settled off new at_head
  · intro patience left idle talk stats w' ran
    exact atHead_settled off new (atHead_of_rounds .start ran)

/-- A bus whose second subscriber wants two of its three messages, one of which can be decoded. -/
def shelf : World bareHost :=
  { World.start default none () with
    bus := ⟨[⟨"1", "u", "k", "e", [], []⟩,
        ⟨"2", "t", "k", "e", (⟨"e", ⟨"null"⟩, .epoch, none⟩ : Envelope).toBytes, []⟩,
        ⟨"3", "t", "k", "e", [], []⟩],
      none, [.fresh none, .fresh (some "t")]⟩ }

theorem one_accepted_one_refused :
    bare.KeepsOff 1 ∧ shelf.bus.subscribers[1]? = some (.fresh (some "t")) ∧
      ∃ talk w', AtHead bare (World.Undisturbed 1) .main (.ofBus 1) .background shelf talk ⟨1, 1⟩ w' ∧
        ∃ x, w'.bus.subscribers[1]? = some x ∧ Settled 1 (some "t") talk ⟨1, 1⟩ w'.bus.log x := by
  have off : bare.KeepsOff 1 := ⟨nofun, nofun⟩
  have twice : (((round (.ofBus 1) .background).bind fun r =>
      (round (.ofBus 1) .background).bind fun r' => Script.done (r, r')).program.alone .main
        shelf).map (·.1) = some (.handled, .failed) := by
    decide +kernel
  obtain ⟨⟨rs, w'⟩, ran, rfl⟩ := Option.map_eq_some_iff.1 twice
  have runs := Program.runs_of_alone bare (World.Undisturbed.refl (i := 1)) ran
  obtain ⟨talk, told⟩ := runs_iff_transcribes.1 runs
  obtain ⟨first, w₁, r, rest, rfl, begun, told₁⟩ := transcribes_bind_iff.1 told
  obtain ⟨second, w₂, r', last, rfl, ended, told₂⟩ := transcribes_bind_iff.1 told₁
  obtain ⟨-, rfl, both⟩ := transcribes_done_iff.1 told₂
  cases both
  have at_head := (AtHead.start.round begun).round ended
  exact ⟨off, rfl, _, _, at_head, (settled_at_head off rfl).1 _ _ _ at_head⟩

end Consumer
end EventDispatch
