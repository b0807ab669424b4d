import EventDispatch.Broker.Bus

namespace EventDispatch

inductive BusCall where
  | read
  | publish (m : Message)
  | subscribe (topic : Option String)
  | poll (subscriber : Nat)
  | ack (subscriber : Nat) (id : String)
  | nack (subscriber : Nat) (id reason : String)
  | failWith (reason : String)
  | recover
  | clear (subscriber : Nat)

namespace BusCall

abbrev Answer : BusCall → Type
  | .read => Bus
  | .publish _ => Except PublishError Unit
  | .subscribe _ => Nat
  | .poll _ => Option Message
  | .ack .. => Unit
  | .nack .. => Unit
  | .failWith _ => Unit
  | .recover => Unit
  | .clear _ => Unit

end BusCall

def Bus.answer (b : Bus) : (c : BusCall) → c.Answer × Bus
  | .read => (b, b)
  | .publish m =>
    match b.publish m with
    | .ok b' => (.ok (), b')
    | .error e => (.error e, b)
  | .subscribe topic => (b.subscribers.length, b.subscribe topic)
  | .poll i => b.poll i
  | .ack i id => ((), b.ack i id)
  | .nack i id reason => ((), b.nack i id reason)
  | .failWith reason => ((), b.failWith reason)
  | .recover => ((), b.recover)
  | .clear i => ((), b.clear i)

end EventDispatch
