import EventDispatch.Json.Lexical
import Mathlib.Tactic.SplitIfs

namespace EventDispatch.Json

/-- A value may end here, though a number might still go on. -/
def Place.isEnd : Place → Bool
  | .after => true
  | .zero => true
  | .integer => true
  | .fraction => true
  | .exponentDigits => true
  | _ => false

def endsNumber (b : UInt8) : Bool :=
  !isDigit b && b != byte '.' && b != byte 'e' && b != byte 'E'

namespace Scanner

variable {s s' : Scanner} {p : Place} {stack outer : List Bracket} {b : UInt8} {bs v rest : Bytes}

theorem isComplete_iff : s.isComplete ↔ s.stack = [] ∧ s.place.isEnd := by
  simp only [isComplete, Bool.and_eq_true, List.isEmpty_iff]
  refine and_congr_right fun _ => ?_
  cases s.place <;> simp [Place.isEnd]

/-- Where the next byte may close a bracket, one is open. -/
def Enclosed (s : Scanner) : Prop := s.place = .valueOrEnd ∨ s.place = .keyOrEnd → s.stack ≠ []

def within (s : Scanner) (outer : List Bracket) : Scanner := ⟨s.place, s.stack ++ outer⟩

theorem enclosed_of_beginValue (begun : beginValue stack b = some s) : s.Enclosed := by
  revert begun
  fun_cases beginValue <;> intro begun <;> cases begun <;> simp [Enclosed]

theorem beginValue_append (stack outer : List Bracket) (b : UInt8) :
    beginValue (stack ++ outer) b = (beginValue stack b).map (·.within outer) := by
  simp only [beginValue, apply_ite (Option.map _), Option.map_some, Option.map_none, within,
    List.cons_append]

theorem beginValue_within (begun : beginValue stack b = some s) :
    s.Enclosed ∧ beginValue (stack ++ outer) b = some (s.within outer) := by
  rw [beginValue_append, begun]
  exact ⟨enclosed_of_beginValue begun, rfl⟩

theorem afterValue_within (next : afterValue stack b = some s) :
    s.Enclosed ∧ afterValue (stack ++ outer) b = some (s.within outer) := by
  unfold afterValue at next ⊢
  cases stack with
  | nil => cases next
  | cons open' rest =>
    cases open' <;> simp only [List.cons_append] at next ⊢ <;> split_ifs at next ⊢ <;>
      cases next <;> simp [Enclosed, within]

theorem step_within (enclosed : s.Enclosed) (next : s.step b = some s') :
    s'.Enclosed ∧ (s.within outer).step b = some (s'.within outer) := by
  obtain ⟨p, stack⟩ := s
  -- Only these two places take a bracket off, and `enclosed` says that it is not an outer one.
  have opened : p = .valueOrEnd ∨ p = .keyOrEnd → stack ≠ [] := enclosed
  cases p with
  | value =>
    simp only [step, within] at next ⊢
    split_ifs at next ⊢
    · cases next
      exact ⟨enclosed, rfl⟩
    · exact beginValue_within next
  | valueOrEnd =>
    simp only [step, within] at next ⊢
    split_ifs at next ⊢
    · cases next
      exact ⟨enclosed, rfl⟩
    · cases next
      simp [Enclosed, List.tail_append_of_ne_nil (opened (.inl rfl))]
    · exact beginValue_within next
  | keyOrEnd =>
    simp only [step, within] at next ⊢
    split_ifs at next ⊢ <;> cases next <;>
      simp [Enclosed, List.tail_append_of_ne_nil (opened (.inr rfl)), opened]
  | after => exact afterValue_within next
  | zero | integer | fraction | exponentDigits =>
    simp only [step, within] at next ⊢
    split_ifs at next ⊢ <;> first
      | exact afterValue_within next
      | (cases next; simp [Enclosed])
  | string isKey =>
    simp only [step, within] at next ⊢
    split_ifs at next ⊢ <;> cases next <;> cases isKey <;> simp [Enclosed, endOfString]
  | word rest =>
    cases rest with
    | nil => cases next
    | cons c rest =>
      simp only [step, within] at next ⊢
      split_ifs at next ⊢ <;> cases next <;> simp [Enclosed]
  | _ =>
    simp only [step, within] at next ⊢
    split_ifs at next ⊢ <;> cases next <;> simp [Enclosed]

theorem step_of_isEnd (ends : p.isEnd) (other : endsNumber b) :
    step ⟨p, stack⟩ b = afterValue stack b := by
  simp only [endsNumber, Bool.and_eq_true, Bool.not_eq_true', bne_iff_ne, ne_eq] at other
  obtain ⟨⟨⟨digit, point⟩, lower⟩, upper⟩ := other
  cases p <;> simp [Place.isEnd] at ends <;> simp [step, digit, point, lower, upper]

def feed (s : Scanner) (bs : Bytes) : Option Scanner := bs.foldlM step s

@[simp] theorem feed_nil (s : Scanner) : s.feed [] = some s := rfl

theorem feed_cons (s : Scanner) (b : UInt8) (bs : Bytes) :
    s.feed (b :: bs) = (s.step b).bind (·.feed bs) := rfl

theorem feed_append (s : Scanner) (bs rest : Bytes) :
    s.feed (bs ++ rest) = (s.feed bs).bind (·.feed rest) :=
  List.foldlM_append

theorem feed_within (enclosed : s.Enclosed) (fed : s.feed bs = some s') :
    (s.within outer).feed bs = some (s'.within outer) := by
  induction bs generalizing s with
  | nil =>
    cases fed
    rfl
  | cons b bs ih =>
    obtain ⟨next, stepped, fed⟩ := Option.bind_eq_some_iff.1 fed
    obtain ⟨enclosed, stepped⟩ := step_within enclosed stepped
    rw [feed_cons, stepped]
    exact ih enclosed fed

theorem feed_of_run (ran : s.run bs = some (v, rest)) :
    ∃ s', s.feed v = some s' ∧ s'.isComplete := by
  induction bs generalizing s v with
  | nil =>
    unfold run at ran
    split_ifs at ran with complete
    cases ran
    exact ⟨s, rfl, complete⟩
  | cons b bs ih =>
    unfold run at ran
    split at ran
    · next stepped =>
      obtain ⟨r, ran₁, e⟩ := Option.map_eq_some_iff.1 ran
      cases e
      obtain ⟨s', fed, complete⟩ := ih ran₁
      exact ⟨s', by rw [feed_cons, stepped]; exact fed, complete⟩
    · split_ifs at ran with complete
      cases ran
      exact ⟨s, rfl, complete⟩

theorem run_of_feed (fed : s.feed v = some s') (complete : s'.isComplete)
    (stops : ∀ b ∈ rest.head?, s'.step b = none) : s.run (v ++ rest) = some (v, rest) := by
  induction v generalizing s with
  | nil =>
    cases fed
    cases rest with
    | nil => simp [run, complete]
    | cons b rest => simp [run, stops b rfl, complete]
  | cons b v ih =>
    obtain ⟨next, stepped, fed⟩ := Option.bind_eq_some_iff.1 fed
    simp [run, stepped, ih fed]

end Scanner

open Scanner

variable {v bs rest : Bytes} {b : UInt8} {stack : List Bracket}

theorem isValue_iff : isValue v ↔ scan v = some (v, []) := by simp [isValue]

theorem begins_of_scan (scanned : scan bs = some (v, rest)) :
    ∃ b r s s', v = b :: r ∧ beginValue [] b = some s ∧ s.feed r = some s' ∧ s'.isComplete := by
  cases bs with
  | nil => cases scanned
  | cons b bs =>
    obtain ⟨s, begun, ran⟩ := Option.bind_eq_some_iff.1 scanned
    obtain ⟨⟨r, left⟩, ran₁, e⟩ := Option.map_eq_some_iff.1 ran
    cases e
    obtain ⟨s', fed, complete⟩ := feed_of_run ran₁
    exact ⟨b, r, s, s', rfl, begun, fed, complete⟩

theorem scan_value (hv : isValue v) (ends : ∀ b ∈ rest.head?, endsNumber b) :
    scan (v ++ rest) = some (v, rest) := by
  obtain ⟨b, r, s, s', rfl, begun, fed, complete⟩ := begins_of_scan (isValue_iff.1 hv)
  obtain ⟨closed, isEnd⟩ := isComplete_iff.1 complete
  have stops : ∀ b ∈ rest.head?, s'.step b = none := by
    intro b hb
    have stepped : step ⟨s'.place, s'.stack⟩ b = afterValue s'.stack b :=
      step_of_isEnd isEnd (ends b hb)
    rw [stepped, closed]
    rfl
  simp [scan, begun, run_of_feed fed complete stops]

theorem isValue_of_begins {r : Bytes} {s s' : Scanner} (begun : beginValue [] b = some s)
    (fed : s.feed r = some s') (complete : s'.isComplete) : isValue (b :: r) := by
  have ran : s.run (r ++ []) = some (r, []) := run_of_feed fed complete (by simp)
  rw [List.append_nil] at ran
  simp [isValue_iff, scan, begun, ran]

/-- What stands at the front of a text is a value on its own too. -/
theorem isValue_of_scan (scanned : scan bs = some (v, rest)) : isValue v := by
  obtain ⟨b, r, s, s', rfl, begun, fed, complete⟩ := begins_of_scan scanned
  exact isValue_of_begins begun fed complete

theorem not_blank_of_beginValue {s : Scanner} (begun : beginValue stack b = some s) :
    isBlank b = false ∧ b ≠ byte ']' := by
  constructor
  · rw [← Bool.not_eq_true]
    intro blank
    simp only [isBlank, Bool.or_eq_true, beq_iff_eq] at blank
    rcases blank with ((rfl | rfl) | rfl) | rfl <;> cases begun
  · rintro rfl
    cases begun

/-- A value has no blanks before it. -/
theorem skipBlanks_value (hv : isValue v) (rest : Bytes) : skipBlanks (v ++ rest) = v ++ rest := by
  obtain ⟨b, r, s, -, rfl, begun, -⟩ := begins_of_scan (isValue_iff.1 hv)
  simp [skipBlanks, not_blank_of_beginValue begun]

theorem document_value (hv : isValue v) : document v = some v := by
  have same : skipBlanks v = v := by simpa using skipBlanks_value hv []
  rw [document, same, isValue_iff.1 hv]
  rfl

/-- A value inside other brackets, with the byte after it. -/
theorem feed_value (hv : isValue v) (ends : endsNumber b) (rest : Bytes) :
    feed ⟨.value, stack⟩ (v ++ b :: rest) = (afterValue stack b).bind (·.feed rest) ∧
      feed ⟨.valueOrEnd, stack⟩ (v ++ b :: rest) = (afterValue stack b).bind (·.feed rest) := by
  obtain ⟨c, r, s, s', rfl, begun, fed, complete⟩ := begins_of_scan (isValue_iff.1 hv)
  obtain ⟨closed, isEnd⟩ := isComplete_iff.1 complete
  obtain ⟨notBlank, notClosing⟩ := not_blank_of_beginValue begun
  obtain ⟨enclosed, begun₁⟩ : s.Enclosed ∧ beginValue stack c = some (s.within stack) :=
    beginValue_within begun
  have fed₁ : (s.within stack).feed r = some ⟨s'.place, stack⟩ := by
    rw [feed_within enclosed fed, within, closed, List.nil_append]
  have after : (s.within stack).feed (r ++ b :: rest) = (afterValue stack b).bind (·.feed rest) := by
    rw [feed_append, fed₁, Option.bind_some, feed_cons, step_of_isEnd isEnd ends]
  constructor
  · simp [feed_cons, step, notBlank, begun₁, after]
  · simp [feed_cons, step, notBlank, notClosing, begun₁, after]

end EventDispatch.Json
