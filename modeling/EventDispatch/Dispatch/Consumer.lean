import EventDispatch.Dispatch.Script

namespace EventDispatch

/-- Where a consumer's messages come from. -/
structure Inlet (h : Host) where
  poll : Script h (Except PublishError (Option Message))
  ack : String → Script h (Except PublishError Unit)
  nack : String → String → Script h (Except PublishError Unit)

/-- A subscriber of the in-memory bus, which never fails. -/
def Inlet.ofBus {h : Host} (subscriber : Nat) : Inlet h where
  poll := return .ok (← Script.act (.bus (.poll subscriber)))
  ack id := return .ok (← Script.act (.bus (.ack subscriber id)))
  nack id reason := return .ok (← Script.act (.bus (.nack subscriber id reason)))

structure ConsumerStats where
  handled : Nat
  failed : Nat
deriving DecidableEq

inductive Round where
  | cancelled
  | idle
  | pollFailed
  | handled
  | failed
deriving DecidableEq

namespace ConsumerStats

def zero : ConsumerStats := ⟨0, 0⟩

def after (s : ConsumerStats) : Round → ConsumerStats
  | .handled => { s with handled := s.handled + 1 }
  | .failed => { s with failed := s.failed + 1 }
  | _ => s

end ConsumerStats

namespace Consumer

variable {h : Host}

open Script

def settle (inlet : Inlet h) (m : Message) : Except ConsumeError Unit → Script h Round
  | .ok () => do
    match ← inlet.ack m.id with
    | .ok () => return .handled
    | .error e =>
      log (.ackFailed m.id e.message)
      return .handled
  | .error e => do
    log (.messageFailed m.id m.eventName e.message)
    match ← inlet.nack m.id e.message with
    | .ok () => return .failed
    | .error nack =>
      log (.nackFailed m.id nack.message)
      return .failed

/-- One round of the loop, which ends with it when the context is cancelled. -/
def round (inlet : Inlet h) (ctx : Context) : Script h Round := do
  if ← act (.isCancelled ctx) then return .cancelled
  match ← inlet.poll with
  | .ok none => return .idle
  | .error e =>
    log (.pollFailed e.message)
    return .pollFailed
  | .ok (some m) => settle inlet m (← ask (.consume ctx m))

/-- Rounds until `left` messages are settled, failed polls counting as such. After an idle round all
other threads go first; after more than `patience` of them in a row, `idle` of which are left, the
consumer gives up. -/
def rounds (inlet : Inlet h) (ctx : Context) (patience : Nat) :
    (left idle : Nat) → ConsumerStats → Script h ConsumerStats
  | 0, _, stats => return stats
  | left + 1, idle, stats => do
    match ← round inlet ctx with
    | .cancelled => return stats
    | .idle =>
      match idle with
      | 0 => return stats
      | idle + 1 =>
        act .pause
        rounds inlet ctx patience (left + 1) idle stats
    | r => rounds inlet ctx patience left patience (stats.after r)
termination_by left idle => (left, idle)

end Consumer
end EventDispatch
