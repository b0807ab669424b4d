import EventDispatch.Broker.BusCall

namespace EventDispatch

inductive Use where
  | read
  | publish (m : Message)
  | failWith (reason : String)
  | recover
  /-- Makes a handle with a subscriber of its own. -/
  | subscribe (topic : Option String)
  /-- Makes a handle that stands for the same subscriber. -/
  | copy
  | poll
  | ack (id : String)
  | nack (id reason : String)
  | clear
deriving DecidableEq

def Use.call? (i : Nat) : Use → Option BusCall
  | .read => some .read
  | .publish m => some (.publish m)
  | .failWith reason => some (.failWith reason)
  | .recover => some .recover
  | .subscribe topic => some (.subscribe topic)
  | .copy => none
  | .poll => some (.poll i)
  | .ack id => some (.ack i id)
  | .nack id reason => some (.nack i id reason)
  | .clear => some (.clear i)

def Use.made (b : Bus) (i : Nat) : Use → List Nat
  | .subscribe _ => [b.subscribers.length]
  | .copy => [i]
  | _ => []

abbrev Reply := (c : BusCall) × c.Answer

structure Correspondence where
  bus : Bus
  /-- The subscriber behind each handle, in the order in which the handles were made. -/
  handles : List Nat
  /-- Every call with its answer, the latest last. -/
  replies : List Reply

namespace Correspondence

def start : Correspondence := ⟨.empty, [0], []⟩

/-- Nothing can be done with a handle that was not made yet. -/
def use (s : Correspondence) (u : Nat × Use) : Correspondence :=
  match s.handles[u.1]? with
  | none => s
  | some i =>
    match u.2.call? i with
    | none => { s with handles := s.handles ++ u.2.made s.bus i }
    | some c => ⟨(s.bus.answer c).2, s.handles ++ u.2.made s.bus i,
        s.replies ++ [⟨c, (s.bus.answer c).1⟩]⟩

def run (s : Correspondence) (us : List (Nat × Use)) : Correspondence := us.foldl use s

def published (replies : List Reply) : List Message :=
  replies.filterMap fun
    | ⟨.publish m, .ok ()⟩ => some m
    | _ => none

def polled (i : Nat) (replies : List Reply) : List Message :=
  replies.filterMap fun
    | ⟨.poll j, some m⟩ => if j = i then some m else none
    | _ => none

@[simp] theorem published_append (replies more : List Reply) :
    published (replies ++ more) = published replies ++ published more :=
  List.filterMap_append

@[simp] theorem polled_append (i : Nat) (replies more : List Reply) :
    polled i (replies ++ more) = polled i replies ++ polled i more :=
  List.filterMap_append

/-- Either the handle is not there, or it was copied, or a call was made on the bus. -/
theorem use_cases (s : Correspondence) (k : Nat) (u : Use) :
    s.use (k, u) = s ∨
      ∃ i, s.handles[k]? = some i ∧
        (u = .copy ∧ s.use (k, u) = { s with handles := s.handles ++ [i] } ∨
          ∃ c, u.call? i = some c ∧ s.use (k, u) =
            ⟨(s.bus.answer c).2, s.handles ++ u.made s.bus i,
              s.replies ++ [⟨c, (s.bus.answer c).1⟩]⟩) := by
  cases hk : s.handles[k]? with
  | none => exact .inl (by simp only [use, hk])
  | some i =>
    refine .inr ⟨i, rfl, ?_⟩
    cases u with
    | copy => exact .inl ⟨rfl, by simp only [use, hk, Use.call?, Use.made]⟩
    | _ => exact .inr ⟨_, rfl, by simp only [use, hk, Use.call?]⟩

end Correspondence
end EventDispatch
