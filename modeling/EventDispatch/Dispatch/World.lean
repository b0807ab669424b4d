import EventDispatch.Dispatch.Program

namespace EventDispatch

inductive Trace (h : Host) where
  | notice (n : Notice)
  | mark (m : h.Mark)

/-- The state that all threads share. -/
structure World (h : Host) where
  settings : Settings
  registry : Registry h
  lastId : Nat
  /-- The ids whose subscription was given up by its holder. -/
  retired : List Nat
  table : RouteTable
  types : TypeRegistry
  pool : Pool h
  bus : Bus
  buffer : List String
  scopes : Nat
  cancelled : List Nat
  elapsed : Nat
  now : Timestamp
  messages : Nat
  host : h.State
  /-- The errands that were sent, by number. -/
  errands : List h.Errand
  /-- How errands ended. -/
  returned : List (Nat × Except Panic h.Result)
  /-- What was told, the latest first, and by which thread. -/
  trail : List (Thread × Trace h)

namespace World

variable {h : Host}

def record (w : World h) (t : Thread) (entry : Trace h) : World h :=
  { w with trail := (t, entry) :: w.trail }

def notice (w : World h) (t : Thread) (n : Notice) : World h := w.record t (.notice n)

/-- Message ids are unlike any text an application would choose. -/
def messageIdOf (n : Nat) : String :=
  "00000000-0000-4000-8000-" ++
    String.ofList (List.replicate (12 - (Nat.toDigits 10 n).length) '0' ++ Nat.toDigits 10 n)

def publish (w : World h) (t : Thread) (ctx : Context) (m : Message) :
    Except PublishError Unit × World h :=
  match w.settings.publisher with
  | none => (.error (.connectionFailed ""), w)
  | some (.failing e) => (.error e, w)
  | some .bus =>
    match w.bus.publish m with
    | .ok bus => (.ok (), { w with bus })
    | .error e => (.error e, w)
  | some .buffer => (.ok (), { w with buffer := w.buffer ++ [m.line ctx.trace?] })
  | some .log =>
    (.ok (), w.notice t (.published m.topic m.key m.eventName (ctx.trace?.getD "")
      (Text.lenient m.payload)))

def answerHost (w : World h) (t : Thread) : (o : HostOp h) → o.Answer × World h
  | .names => (w.registry.names, w)
  | .count name => (w.registry.count name, w)
  | .intercept i => ((), { w with registry := w.registry.intercept i })
  | .table => (w.table, w)
  | .types => (w.types, w)
  | .register type =>
    match w.types.register type with
    | .ok types => (.ok (), { w with types })
    | .error e => (.error e, w)
  | .settings => (w.settings, w)
  | .openScope => (w.scopes, { w with scopes := w.scopes + 1 })
  | .cancelScope scope => ((), { w with cancelled := scope :: w.cancelled })
  | .isCancelled ctx => (ctx.isCancelled w.cancelled w.elapsed, w)
  | .elapsed => (w.elapsed, w)
  | .bus c =>
    let (a, bus) := w.bus.answer c
    (a, { w with bus })
  | .buffer => (w.buffer, w)
  | .log n => ((), w.notice t n)
  | .mark m => ((), w.record t (.mark m))
  | .thread => (t, w)
  | .modify f => (w.host, { w with host := f w.host })
  | .await _ => ((), w)
  | .send e => (w.errands.length, { w with errands := w.errands ++ [e] })
  | .fetch n => (w.returned.lookup n, w)
  | .pause => ((), w)

/-- The answer to a step of thread `t`, and the state after it. -/
def answer (w : World h) (t : Thread) : (o : Op h) → o.Answer × World h
  | .host o => w.answerHost t o
  | .takeId => (w.lastId + 1, { w with lastId := w.lastId + 1 })
  | .insert name e => ((), { w with registry := w.registry.insert name e })
  | .removeAll name ids => ((), { w with registry := w.registry.removeAll name ids })
  | .contains name id => (w.registry.contains name id, w)
  | .retire id => (!w.retired.contains id, { w with retired := id :: w.retired })
  | .isRetired id => (w.retired.contains id, w)
  | .snapshot name => (w.registry.snapshot name, w)
  | .claim e =>
    let (granted, registry) := w.registry.claim e
    (granted, { w with registry })
  | .release e => ((), { w with registry := w.registry.release e })
  | .spent es => (w.registry.spent es, w)
  | .loadTable table => ((), { w with table })
  | .now => (w.now, w)
  | .messageId => (messageIdOf w.messages, { w with messages := w.messages + 1 })
  | .publish ctx m => w.publish t ctx m
  | .isClosed => (w.pool.closed, w)
  | .enqueue job =>
    let (r, pool) := w.pool.enqueue job
    (r, { w with pool })
  | .tally c => ((), { w with pool := w.pool.count c })
  | .settle c => ((), { w with pool := w.pool.settle c })
  | .readTally c => (w.pool.stats.read c, w)
  | .close => ((), { w with pool := { w.pool with closed := true } })
  | .sealQueue => ((), { w with pool := { w.pool with sealed := true } })
  | .join => (!w.pool.joined, { w with pool := { w.pool with joined := true } })
  | .awaitDrained => ((), w)

/-- Publishing concerns the broker, the buffer and the log. -/
theorem publish_concerns (w : World h) (t : Thread) (ctx : Context) (m : Message) :
    ∃ bus buffer trail, (w.publish t ctx m).2 = { w with bus, buffer, trail } := by
  unfold publish
  split
  · exact ⟨_, _, _, rfl⟩
  · exact ⟨_, _, _, rfl⟩
  · split <;> exact ⟨_, _, _, rfl⟩
  · exact ⟨_, _, _, rfl⟩
  · exact ⟨_, _, _, rfl⟩

theorem register_concerns (w : World h) (t : Thread) (type : EventType) :
    ∃ types, (w.answerHost t (.register type)).2 = { w with types } := by
  simp only [answerHost]
  split <;> exact ⟨_, rfl⟩

def workerOf : Thread → Option Nat
  | .worker n => some n
  | _ => none

/-- Whether thread `t` can take the step now, or has to wait. -/
def isReady (w : World h) (t : Thread) : Op h → Bool
  | .host (.await ready) => ready w.host
  | .host (.fetch n) => (w.returned.lookup n).isSome
  | .enqueue _ => !w.pool.held
  | .sealQueue => !w.pool.held
  | .awaitDrained => w.pool.isDrained (workerOf t)
  | _ => true

end World
end EventDispatch
