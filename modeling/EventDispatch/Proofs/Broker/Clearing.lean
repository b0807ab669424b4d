import EventDispatch.Proofs.Broker.Reading

namespace EventDispatch.Correspondence

open Bus

variable {s : Correspondence} {k i : Nat}

/-- Clears the bus through a handle, and keeps no more of what was said before. -/
def clear (s : Correspondence) (k : Nat) : Correspondence :=
  { s.use (k, .clear) with replies := [] }

theorem bus_clear (hk : s.handles[k]? = some i) : (s.clear k).bus = s.bus.clear i := by
  simp only [clear, use, hk, Use.call?, Bus.answer]

/-- The one that clears goes back to the beginning, and the others stay where they are. -/
theorem subscriber_clear (b : Bus) {j : Nat} {x : Subscriber} (hx : b.subscribers[j]? = some x) :
    (b.clear i).subscribers[j]? = some (if i = j then .fresh x.topic else x) := by
  simp only [Bus.clear, List.getElem?_modify, hx]
  split <;> rfl

theorem since_clear (held : s.Held) : Since (s.clear k).bus (s.clear k) :=
  Since.refl (s.use (k, .clear)) (held.use _)

/-- After a clearing the log is empty, and a subscriber is within it just if it was the one that
cleared or had read nothing. When it has no more to read, it has been given what it wants of all that
was published since, except for as many of the first messages as it had gone over before. So it was
given all that it wants just if it wants none of these. -/
theorem given_since_clear (us : List (Nat × Use)) (hk : (start.run us).handles[k]? = some i)
    {later : List (Nat × Use)} (keeps : ∀ u ∈ later, u.2 ≠ .clear) :
    let s := start.run us
    let t := (s.clear k).run later
    ∀ j x, s.bus.subscribers[j]? = some x →
      let p := if i = j then 0 else x.position
      ((s.clear k).bus.position j ≤ (s.clear k).bus.log.length ↔ i = j ∨ x.position = 0) ∧
        polled j t.replies =
          (stretch (published t.replies) p (t.bus.position j)).filter x.wants ∧
        ((t.bus.poll j).1 = none →
          polled j t.replies = ((published t.replies).drop p).filter x.wants ∧
          (polled j t.replies = (published t.replies).filter x.wants ↔
            ∀ m ∈ (published t.replies).take p, ¬x.wants m)) := by
  intro s t j x hx p
  have since : Since (s.clear k).bus t := (since_clear (held_start.run us)).run keeps
  have cleared := subscriber_clear (i := i) s.bus hx
  rw [← bus_clear hk] at cleared
  have log : (s.clear k).bus.log = [] := by
    rw [bus_clear hk]
    rfl
  have position : (s.clear k).bus.position j = p := by
    rw [position_of_some cleared]
    by_cases own : i = j <;> simp [p, own, Subscriber.fresh]
  obtain ⟨y, hy, same⟩ := since.kept j _ cleared
  have wants : y.wants = x.wants := by
    rw [same]
    split <;> rfl
  obtain ⟨le, -, given⟩ := since.read j y hy
  rw [since.log, log, List.nil_append, position, wants] at given
  rw [position] at le
  refine ⟨?_, ?_, fun nothing => ?_⟩
  · rw [position, log, List.length_nil, Nat.le_zero]
    by_cases own : i = j <;> simp [p, own]
  · rw [given, position_of_some hy]
  · rw [t.bus.poll_eq_none_iff hy, since.log, log, List.nil_append, wants] at nothing
    have all : polled j t.replies = ((published t.replies).drop p).filter x.wants := by
      rw [given, ← stretch_append_drop _ le, List.filter_append, nothing, List.append_nil]
    refine ⟨all, ?_⟩
    -- What was passed over makes the difference between these and all messages.
    rw [all, ← List.filter_eq_nil_iff, ← List.self_eq_append_left, ← List.filter_append,
      List.take_append_drop]

def readOnce : List (Nat × Use) :=
  [(0, .publish (note "1" "a")), (0, .subscribe none), (1, .poll)]

def twoMore : List (Nat × Use) := [(0, .publish (note "2" "a")), (0, .publish (note "3" "b")), (1, .poll)]

theorem first_message_passed_over :
    (start.run readOnce).handles[0]? = some 0 ∧ (∀ u ∈ twoMore, u.2 ≠ .clear) ∧
      (start.run readOnce).bus.subscribers[1]? = some ⟨none, 1, [], []⟩ ∧
      polled 1 (((start.run readOnce).clear 0).run twoMore).replies = [note "3" "b"] := by
  have keeps : ∀ u ∈ twoMore, u.2 ≠ .clear := by decide
  obtain ⟨-, -, all⟩ := given_since_clear (k := 0) (i := 0) readOnce rfl keeps 1 ⟨none, 1, [], []⟩ rfl
  exact ⟨rfl, keeps, rfl, (all rfl).1⟩

/-- The second subscriber stands past the end of the cleared log, and is never given the message that
is published next. -/
theorem reader_stranded :
    let s := start.run readOnce
    let t := (s.clear 0).run [(0, .publish (note "2" "a")), (1, .poll)]
    s.handles[0]? = some 0 ∧ (s.clear 0).bus.log.length < (s.clear 0).bus.position 1 ∧
      published t.replies = [note "2" "a"] ∧ (t.bus.subscriber 1).wants (note "2" "a") ∧
      polled 1 t.replies = [] ∧ (t.bus.poll 1).1 = none := by
  decide

end EventDispatch.Correspondence
