import EventDispatch.Broker.Message

namespace EventDispatch

/-- A reader of a bus's one log, at a position of its own. Copies of a subscriber share its position and
what it settled. -/
structure Subscriber where
  topic : Option String
  position : Nat
  acknowledged : List String
  rejected : List (String × String)
deriving DecidableEq

namespace Subscriber

def fresh (topic : Option String) : Subscriber := ⟨topic, 0, [], []⟩

def wants (s : Subscriber) (m : Message) : Bool :=
  match s.topic with
  | some topic => topic == m.topic
  | none => true

/-- The first wanted message of the unread part, and how far reading it gets. -/
def nextWanted (s : Subscriber) : List Message → Nat → Option Message × Nat
  | [], read => (none, read)
  | m :: rest, read => if s.wants m then (some m, read + 1) else s.nextWanted rest (read + 1)

def poll (s : Subscriber) (log : List Message) : Option Message × Subscriber :=
  let (message, read) := s.nextWanted (log.drop s.position) 0
  (message, { s with position := s.position + read })

end Subscriber

/-- Subscribers are numbered in the order they were made; the bus's own handle is number 0. -/
structure Bus where
  log : List Message
  failure : Option String
  subscribers : List Subscriber
deriving DecidableEq

namespace Bus

def empty : Bus := ⟨[], none, [.fresh none]⟩

def subscriber (b : Bus) (i : Nat) : Subscriber := b.subscribers.getD i (.fresh none)

def publish (b : Bus) (m : Message) : Except PublishError Bus :=
  match b.failure with
  | some reason => .error (.rejected reason)
  | none => .ok { b with log := b.log ++ [m] }

def failWith (b : Bus) (reason : String) : Bus := { b with failure := some reason }

def recover (b : Bus) : Bus := { b with failure := none }

/-- The number of the new subscriber is how many there were. -/
def subscribe (b : Bus) (topic : Option String) : Bus :=
  { b with subscribers := b.subscribers ++ [.fresh topic] }

def poll (b : Bus) (i : Nat) : Option Message × Bus :=
  let (message, s) := (b.subscriber i).poll b.log
  (message, { b with subscribers := b.subscribers.set i s })

def ack (b : Bus) (i : Nat) (id : String) : Bus :=
  { b with subscribers :=
      b.subscribers.modify i fun s => { s with acknowledged := s.acknowledged ++ [id] } }

def nack (b : Bus) (i : Nat) (id reason : String) : Bus :=
  { b with subscribers :=
      b.subscribers.modify i fun s => { s with rejected := s.rejected ++ [(id, reason)] } }

/-- Empties the log, and what the acting subscriber has read and settled. -/
def clear (b : Bus) (i : Nat) : Bus :=
  { b with
    log := []
    subscribers := b.subscribers.modify i fun s => .fresh s.topic }

def topics (b : Bus) : List String := b.log.map (·.topic)

def onTopic (b : Bus) (topic : String) : List Message := b.log.filter (·.topic == topic)

def firstOfEvent? (b : Bus) (name : String) : Option Message := b.log.find? (·.eventName == name)

end Bus
end EventDispatch
