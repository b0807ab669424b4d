import EventDispatch.Dispatch.Machine
import EventDispatch.Dispatch.Start
import EventDispatch.Scenario.Conduct

namespace EventDispatch.Scenario

/-- More turns than any run of a scenario takes. -/
def plenty : Nat := 100000000

/-- A dispatcher between steps: errands and workers may be held up on their way. -/
abbrev Bench := Machine host Reply

namespace Bench

/-- Runs a program on the calling thread, until no thread has anything more to do. -/
def advance (b : Bench) (p : Program host Reply) : Bench :=
  Machine.run application plenty { b with callers := [(.main, p)] }

def reply (b : Bench) : Reply :=
  match b.callers with
  | [(_, .done r)] => r
  | [(_, .panic p)] => .panicked p
  | _ => .unit

def forget (b : Bench) : Bench := { b with world := { b.world with trail := [] } }

end Bench

/-- What a step answered, and the state after it. -/
structure Report where
  reply : Reply
  world : World host

namespace Report

def entriesOf (r : Report) (wanted : Thread → Bool) : List (Trace host) :=
  (r.world.trail.reverse.filter fun e => wanted e.1).map (·.2)

/-- What was told on the calling thread since the step before. -/
def log (r : Report) : List (Trace host) := r.entriesOf (· == .main)

/-- What was told on all other threads. -/
def poolLog (r : Report) : List (Trace host) := r.entriesOf (· != .main)

def counts (r : Report) : List (String × Nat) :=
  r.world.registry.listeners.entries.map fun e => (e.1, e.2.length)

def isCancelled (r : Report) (ctx : Context) : Bool :=
  ctx.isCancelled r.world.cancelled r.world.elapsed

end Report

def runSteps (b : Bench) : List Step → List Report
  | [] => []
  | step :: rest =>
    let b := b.forget.advance (perform .background step).program
    ⟨b.reply, b.world⟩ :: runSteps b rest

/-- A dispatcher made without settings says nothing when it starts. -/
def runDefault (steps : List Step) : List Report :=
  runSteps (.idle (.start .default none .initial)) steps

/-- The report of the start, and those of the steps. -/
def run (c : Config) (publisher : Option Publisher) (steps : List Step) :
    Except ConfigError (Report × List Report) :=
  (Control.build c publisher State.initial).map fun (w, program) =>
    let b := Bench.advance (.idle w) (program.bind fun _ => .done .unit)
    (⟨b.reply, b.world⟩, runSteps b steps)

end EventDispatch.Scenario
