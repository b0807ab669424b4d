import EventDispatch.Proofs.Broker.Handles

namespace EventDispatch

def stretch (log : List Message) (p q : Nat) : List Message := (log.drop p).take (q - p)

@[simp] theorem stretch_self (log : List Message) (p : Nat) : stretch log p p = [] := by
  simp [stretch]

@[simp] theorem stretch_zero (log : List Message) (q : Nat) : stretch log 0 q = log.take q := rfl

theorem stretch_append {p q r : Nat} (log : List Message) (hpq : p ≤ q) (hqr : q ≤ r) :
    stretch log p q ++ stretch log q r = stretch log p r := by
  have whole : r - p = (q - p) + (r - q) := by omega
  simp only [stretch]
  rw [whole, List.take_add, List.drop_drop, Nat.add_sub_cancel' hpq]

/-- What lies before a position stays there when the log grows. -/
theorem stretch_append_log {p q : Nat} (log more : List Message) (hq : q ≤ max p log.length) :
    stretch (log ++ more) p q = stretch log p q := by
  by_cases nothing : q ≤ p
  · simp [stretch, Nat.sub_eq_zero_of_le nothing]
  · simp only [stretch]
    rw [List.drop_append_of_le_length (by omega), List.take_append_of_le_length]
    rw [List.length_drop]
    omega

/-- A stretch that goes to the end of the log or past it. -/
theorem stretch_of_length_le {p q : Nat} {log : List Message} (hq : log.length ≤ q) :
    stretch log p q = log.drop p := by
  apply List.take_of_length_le
  rw [List.length_drop]
  omega

theorem stretch_append_drop {p q : Nat} (log : List Message) (hpq : p ≤ q) :
    stretch log p q ++ log.drop q = log.drop p := by
  have hq : q ≤ max q log.length := Nat.le_max_left _ _
  have hl : log.length ≤ max q log.length := Nat.le_max_right _ _
  rw [← stretch_of_length_le hl, stretch_append log hpq hq, stretch_of_length_le hl]

namespace Subscriber

/-- Reading stops at the first wanted message, or when nothing is left. -/
theorem nextWanted_spec (s : Subscriber) (unread : List Message) (read : Nat) :
    ∃ n, (s.nextWanted unread read).2 = read + n ∧ n ≤ unread.length ∧
      (unread.take n).filter s.wants = (s.nextWanted unread read).1.toList ∧
      ((s.nextWanted unread read).1 = none → n = unread.length) := by
  induction unread generalizing read with
  | nil => exact ⟨0, rfl, Nat.le_refl 0, rfl, fun _ => rfl⟩
  | cons m rest ih =>
    by_cases wanted : s.wants m
    · exact ⟨1, by simp [nextWanted, wanted]⟩
    · obtain ⟨n, read', le, found, all⟩ := ih (read + 1)
      refine ⟨n + 1, ?_, ?_, ?_, ?_⟩
      · simp only [nextWanted, wanted, Bool.false_eq_true, if_false, read']
        omega
      · simpa using le
      · simpa [nextWanted, wanted] using found
      · simpa [nextWanted, wanted] using all

theorem poll_spec (s : Subscriber) (log : List Message) :
    s.position ≤ (s.poll log).2.position ∧
      (s.poll log).2.position ≤ max s.position log.length ∧
      (stretch log s.position (s.poll log).2.position).filter s.wants = (s.poll log).1.toList ∧
      ((s.poll log).1 = none → log.length ≤ (s.poll log).2.position) := by
  obtain ⟨n, read, le, found, all⟩ := s.nextWanted_spec (log.drop s.position) 0
  have position : (s.poll log).2.position = s.position + n := by
    simp only [poll, read, Nat.zero_add]
  rw [List.length_drop] at le all
  refine ⟨by omega, by omega, ?_, fun none => ?_⟩
  · rw [position, stretch, Nat.add_sub_cancel_left]
    exact found
  · have := all none
    omega

/-- A poll that finds nothing finds that nothing wanted is left. -/
theorem poll_eq_none_iff (s : Subscriber) (log : List Message) :
    (s.poll log).1 = none ↔ (log.drop s.position).filter s.wants = [] := by
  obtain ⟨le, -, found, all⟩ := s.poll_spec log
  constructor
  · intro none
    rw [← stretch_of_length_le (all none), found, none, Option.toList_none]
  · intro nothing
    have part : (stretch log s.position (s.poll log).2.position).filter s.wants = [] := by
      rw [List.filter_eq_nil_iff] at nothing ⊢
      exact fun m hm => nothing m (List.mem_of_mem_take hm)
    rwa [found, Option.toList_eq_nil_iff] at part

end Subscriber

def BusCall.subscriber? : BusCall → Option Nat
  | .poll i => some i
  | .ack i _ => some i
  | .nack i _ _ => some i
  | .clear i => some i
  | _ => none

namespace Bus

/-- Where a subscriber stands. One that is yet to be made will begin with the first message. -/
def position (b : Bus) (i : Nat) : Nat := ((b.subscribers[i]?).map (·.position)).getD 0

theorem position_of_some {b : Bus} {i : Nat} {x : Subscriber} (hx : b.subscribers[i]? = some x) :
    b.position i = x.position := by
  simp only [position, hx, Option.map_some, Option.getD_some]

theorem subscriber_of_some {b : Bus} {i : Nat} {x : Subscriber}
    (hx : b.subscribers[i]? = some x) : b.subscriber i = x := by
  simp only [subscriber, List.getD_eq_getElem?_getD, hx, Option.getD_some]

theorem poll_eq_none_iff (b : Bus) {i : Nat} {x : Subscriber} (hx : b.subscribers[i]? = some x) :
    (b.poll i).1 = none ↔ (b.log.drop x.position).filter x.wants = [] := by
  have poll : (b.poll i).1 = (x.poll b.log).1 := by
    simp only [Bus.poll, subscriber_of_some hx]
  rw [poll, x.poll_eq_none_iff]

/-- A call leaves alone every subscriber that it is not about. -/
theorem answer_other (b : Bus) (c : BusCall) {i : Nat} (hi : i < b.subscribers.length)
    (other : c.subscriber? ≠ some i) : (b.answer c).2.subscribers[i]? = b.subscribers[i]? := by
  cases c with
  | publish m =>
    simp only [answer, publish]
    cases b.failure <;> rfl
  | subscribe topic => exact List.getElem?_append_left hi
  | poll j =>
    have ne : j ≠ i := fun same => other (by rw [same]; rfl)
    exact List.getElem?_set_ne ne
  | ack j id =>
    have ne : j ≠ i := fun same => other (by rw [same]; rfl)
    exact List.getElem?_modify_ne _ _ ne
  | nack j id reason =>
    have ne : j ≠ i := fun same => other (by rw [same]; rfl)
    exact List.getElem?_modify_ne _ _ ne
  | clear j =>
    have ne : j ≠ i := fun same => other (by rw [same]; rfl)
    exact List.getElem?_modify_ne _ _ ne
  | _ => rfl

/-- A subscriber went over part of a log and got these messages from it. -/
structure Advanced (log : List Message) (x y : Subscriber) (got : List Message) : Prop where
  wants : y.wants = x.wants
  le : x.position ≤ y.position
  le_max : y.position ≤ max x.position log.length
  got : got = (stretch log x.position y.position).filter x.wants

theorem Advanced.stays {log : List Message} {x y : Subscriber} (wants : y.wants = x.wants)
    (position : y.position = x.position) : Advanced log x y [] where
  wants := wants
  le := Nat.le_of_eq position.symm
  le_max := position ▸ Nat.le_max_left _ _
  got := by rw [position, stretch_self, List.filter_nil]

end Bus

namespace Correspondence

open Bus

theorem polled_other {c : BusCall} {i : Nat} (a : c.Answer) (other : c ≠ .poll i) :
    polled i [⟨c, a⟩] = [] := by
  cases c with
  | poll j =>
    have ne : j ≠ i := fun same => other (by rw [same])
    cases a with
    | none => rfl
    | some m => simp [polled, ne]
  | _ => rfl

theorem polled_own (i : Nat) (a : Option Message) : polled i [⟨.poll i, a⟩] = a.toList := by
  cases a with
  | none => rfl
  | some m => simp [polled]

/-- What one call does to the log: a publishing that succeeds puts its message at the end. -/
theorem log_answer (b : Bus) (c : BusCall) (keeps : ∀ i, c ≠ .clear i) :
    (b.answer c).2.log = b.log ++ published [⟨c, (b.answer c).1⟩] := by
  cases c with
  | publish m =>
    simp only [Bus.answer, Bus.publish]
    cases b.failure with
    | none => rfl
    | some reason => exact (List.append_nil _).symm
  | clear i => exact absurd rfl (keeps i)
  | _ => exact (List.append_nil _).symm

/-- What one call does to a subscriber. -/
theorem subscriber_answer {b : Bus} {c : BusCall} (keeps : ∀ i, c ≠ .clear i) {i : Nat}
    {x : Subscriber} (hx : b.subscribers[i]? = some x) :
    ∃ y, (b.answer c).2.subscribers[i]? = some y ∧
      Advanced b.log x y (polled i [⟨c, (b.answer c).1⟩]) := by
  have hi : i < b.subscribers.length := (List.getElem?_eq_some_iff.1 hx).1
  by_cases about : c.subscriber? = some i
  · cases c with
    | poll j =>
      cases about
      have own := subscriber_of_some hx
      obtain ⟨le, max, read, -⟩ := x.poll_spec b.log
      refine ⟨(x.poll b.log).2, ?_, rfl, le, max, ?_⟩
      · simp only [Bus.answer, Bus.poll, own]
        exact List.getElem?_set_self hi
      · simp only [Bus.answer, Bus.poll, own]
        rw [polled_own, read]
    | ack j id =>
      cases about
      exact ⟨{ x with acknowledged := x.acknowledged ++ [id] },
        by simp only [Bus.answer, Bus.ack, List.getElem?_modify_eq, hx, Option.map_eq_map, Option.map_some],
        .stays rfl rfl⟩
    | nack j id reason =>
      cases about
      exact ⟨{ x with rejected := x.rejected ++ [(id, reason)] },
        by simp only [Bus.answer, Bus.nack, List.getElem?_modify_eq, hx, Option.map_eq_map,
          Option.map_some],
        .stays rfl rfl⟩
    | clear j => exact absurd rfl (keeps j)
    | _ => cases about
  · have unpolled : c ≠ .poll i := by
      rintro rfl
      exact about rfl
    refine ⟨x, (b.answer_other c hi about).trans hx, ?_⟩
    rw [polled_other _ unpolled]
    exact .stays rfl rfl

/-- No call takes a subscriber away, and one call makes one. -/
theorem length_answer (b : Bus) (c : BusCall) :
    (b.answer c).2.subscribers.length = b.subscribers.length ∨
      ∃ topic, c = .subscribe topic ∧
        (b.answer c).2.subscribers = b.subscribers ++ [.fresh topic] := by
  cases c with
  | publish m =>
    simp only [Bus.answer, Bus.publish]
    cases b.failure <;> exact .inl rfl
  | subscribe topic => exact .inr ⟨topic, rfl, rfl⟩
  | poll i => exact .inl List.length_set
  | ack i id => exact .inl (List.length_modify ..)
  | nack i id reason => exact .inl (List.length_modify ..)
  | clear i => exact .inl (List.length_modify ..)
  | _ => exact .inl rfl

/-- A subscriber that a call made has read nothing. -/
theorem subscriber_made {b : Bus} {c : BusCall} {i : Nat} {x : Subscriber}
    (new : b.subscribers.length ≤ i) (hx : (b.answer c).2.subscribers[i]? = some x) :
    x.position = 0 := by
  have hi : i < (b.answer c).2.subscribers.length := (List.getElem?_eq_some_iff.1 hx).1
  rcases length_answer b c with same | ⟨topic, -, made⟩
  · omega
  · have last : i = b.subscribers.length := by
      rw [made, List.length_append, List.length_singleton] at hi
      omega
    subst last
    rw [made, List.getElem?_concat_length] at hx
    cases hx
    rfl

def Held (s : Correspondence) : Prop := ∀ i ∈ s.handles, i < s.bus.subscribers.length

/-- What a correspondence that clears nothing has done since a bus was as `b`. -/
structure Since (b : Bus) (s : Correspondence) : Prop where
  log : s.bus.log = b.log ++ published s.replies
  held : s.Held
  fresh : ∀ i, s.bus.subscribers.length ≤ i → b.position i = 0 ∧ polled i s.replies = []
  read : ∀ i x, s.bus.subscribers[i]? = some x →
    b.position i ≤ x.position ∧ x.position ≤ max (b.position i) s.bus.log.length ∧
      polled i s.replies = (stretch s.bus.log (b.position i) x.position).filter x.wants
  kept : ∀ (i : Nat) x, b.subscribers[i]? = some x →
    ∃ y, s.bus.subscribers[i]? = some y ∧ y.wants = x.wants

variable {b : Bus} {s : Correspondence}

theorem Since.refl (s : Correspondence) (held : s.Held) :
    Since s.bus { s with replies := [] } where
  log := (List.append_nil _).symm
  held := held
  fresh i hi := by
    refine ⟨?_, rfl⟩
    simp only [position, List.getElem?_eq_none hi, Option.map_none, Option.getD_none]
  read i x hx := by
    have at_x : s.bus.position i = x.position := position_of_some hx
    rw [at_x, stretch_self]
    exact ⟨Nat.le_refl _, Nat.le_max_left _ _, rfl⟩
  kept i x hx := ⟨x, hx, rfl⟩

theorem Since.call (hs : Since b s) {c : BusCall} (keeps : ∀ i, c ≠ .clear i)
    (mine : ∀ i, c.subscriber? = some i → i < s.bus.subscribers.length) {handles : List Nat}
    (held : ∀ i ∈ handles, i < (s.bus.answer c).2.subscribers.length) :
    Since b ⟨(s.bus.answer c).2, handles, s.replies ++ [⟨c, (s.bus.answer c).1⟩]⟩ := by
  have log := log_answer s.bus c keeps
  have unpolled : ∀ i, s.bus.subscribers.length ≤ i →
      polled i (s.replies ++ [⟨c, (s.bus.answer c).1⟩]) = [] := by
    intro i hi
    have other : c ≠ .poll i := by
      rintro rfl
      exact absurd (mine i rfl) (Nat.not_lt.2 hi)
    rw [polled_append, (hs.fresh i hi).2, polled_other _ other, List.append_nil]
  constructor
  case log =>
    rw [published_append, ← List.append_assoc, ← hs.log]
    exact log
  case held => exact held
  case fresh =>
    intro i hi
    have before : s.bus.subscribers.length ≤ i := by
      rcases length_answer s.bus c with same | ⟨topic, -, made⟩
      · exact same ▸ hi
      · simp only [made, List.length_append] at hi
        omega
    exact ⟨(hs.fresh i before).1, unpolled i before⟩
  case read =>
    intro i y hy
    cases hx : s.bus.subscribers[i]? with
    | none =>
      have new := List.getElem?_eq_none_iff.1 hx
      have start := (hs.fresh i new).1
      have made := subscriber_made new hy
      simp only [start, made, unpolled i new]
      exact ⟨Nat.le_refl 0, Nat.zero_le _, rfl⟩
    | some x =>
      obtain ⟨y', hy', wants, le, le_max, got⟩ := subscriber_answer keeps hx
      cases hy.symm.trans hy'
      obtain ⟨le', le_max', read⟩ := hs.read i x hx
      have longer : s.bus.log.length ≤ (s.bus.answer c).2.log.length := by
        rw [log, List.length_append]
        omega
      have within : y.position ≤ max (b.position i) s.bus.log.length := by omega
      refine ⟨Nat.le_trans le' le, by simp only; omega, ?_⟩
      -- What was read before, and what this call read after it, are one stretch of the log.
      have grown : stretch (s.bus.answer c).2.log (b.position i) y.position =
          stretch s.bus.log (b.position i) y.position := by
        rw [log, stretch_append_log _ _ within]
      rw [polled_append, read, got, ← List.filter_append, stretch_append _ le' le, wants, grown]
  case kept =>
    intro i x hx
    obtain ⟨y, hy, same⟩ := hs.kept i x hx
    obtain ⟨z, hz, moved⟩ := subscriber_answer keeps hy
    exact ⟨z, hz, moved.wants.trans same⟩

/-- Through a handle only its own subscriber is called on. -/
theorem subscriber?_of_call {i j : Nat} {u : Use} {c : BusCall} (called : u.call? i = some c)
    (about : c.subscriber? = some j) : j = i := by
  cases u with
  | copy => cases called
  | _ =>
    cases called
    cases about <;> rfl

theorem clears_of_call {i j : Nat} {u : Use} (called : u.call? i = some (.clear j)) : u = .clear := by
  cases u with
  | clear => rfl
  | _ => cases called

theorem mem_made {i j : Nat} {u : Use} {c : BusCall} (called : u.call? i = some c)
    (made : j ∈ u.made b i) : j < (b.answer c).2.subscribers.length := by
  cases u with
  | subscribe topic =>
    cases called
    rw [List.mem_singleton.1 made]
    simp [Bus.answer, Bus.subscribe]
  | copy => cases called
  | _ => cases made

theorem Held.use (hs : s.Held) (u : Nat × Use) : (s.use u).Held := by
  obtain ⟨k, u⟩ := u
  rcases use_cases s k u with same | ⟨i, hk, ⟨-, copied⟩ | ⟨c, called, went⟩⟩
  · rw [same]
    exact hs
  · rw [copied]
    intro j hj
    rcases List.mem_append.1 hj with hj | hj
    · exact hs j hj
    · exact List.mem_singleton.1 hj ▸ hs i (List.mem_of_getElem? hk)
  · rw [went]
    intro j hj
    rcases List.mem_append.1 hj with hj | hj
    · have before := hs j hj
      rcases length_answer s.bus c with same | ⟨topic, -, made⟩
      · exact same.symm ▸ before
      · simp only [made, List.length_append]
        exact Nat.lt_add_right _ before
    · exact mem_made called hj

theorem Held.run (hs : s.Held) (us : List (Nat × Use)) : (s.run us).Held := by
  induction us generalizing s with
  | nil => exact hs
  | cons u rest ih => exact ih (hs.use u)

theorem held_start : start.Held := by simp [Held, start, Bus.empty]

theorem Since.use (hs : Since b s) (u : Nat × Use) (keeps : u.2 ≠ .clear) :
    Since b (s.use u) := by
  have held := Held.use hs.held u
  obtain ⟨k, u⟩ := u
  rcases use_cases s k u with same | ⟨i, hk, ⟨-, copied⟩ | ⟨c, called, went⟩⟩
  · rw [same]
    exact hs
  · rw [copied] at held ⊢
    exact ⟨hs.log, held, hs.fresh, hs.read, hs.kept⟩
  · have hi := hs.held i (List.mem_of_getElem? hk)
    rw [went] at held ⊢
    refine hs.call ?_ (fun j about => subscriber?_of_call called about ▸ hi) held
    rintro j rfl
    exact keeps (clears_of_call called)

theorem Since.run (hs : Since b s) {us : List (Nat × Use)} (keeps : ∀ u ∈ us, u.2 ≠ .clear) :
    Since b (s.run us) := by
  induction us generalizing s with
  | nil => exact hs
  | cons u rest ih =>
    obtain ⟨first, others⟩ := List.forall_mem_cons.1 keeps
    exact ih (hs.use u first) others

/-- In every run that clears nothing the log is what was published, and each subscriber got what it
wants of the messages before its position, in order and each once. A poll returns nothing exactly when
nothing wanted is left, and no use of a handle touches another subscriber than its own. -/
theorem subscribers_follow_log {us : List (Nat × Use)} (keeps : ∀ u ∈ us, u.2 ≠ .clear) :
    let s := start.run us
    s.bus.log = published s.replies ∧
      (∀ m e, (s.bus.answer (.publish m)).1 = .error e → (s.bus.answer (.publish m)).2 = s.bus) ∧
      (∀ i ∈ s.handles, i < s.bus.subscribers.length) ∧
      (∀ i x, s.bus.subscribers[i]? = some x →
        x.position ≤ s.bus.log.length ∧
          polled i s.replies = (s.bus.log.take x.position).filter x.wants ∧
          ((s.bus.poll i).1 = none ↔ ∀ m ∈ s.bus.log.drop x.position, ¬x.wants m)) ∧
      ∀ k i u, s.handles[k]? = some i → ∀ j < s.bus.subscribers.length, j ≠ i →
        (s.use (k, u)).bus.subscribers[j]? = s.bus.subscribers[j]? := by
  intro s
  have since : Since .empty s := (Since.refl start held_start).run keeps
  -- Every subscriber began at the first message, also one that was made later.
  have begun : ∀ i, Bus.empty.position i = 0 := fun i => by cases i <;> rfl
  refine ⟨since.log, fun m e failed => ?_, since.held, fun i x hx => ?_, fun k i u hk j hj ne => ?_⟩
  · simp only [Bus.answer, Bus.publish] at failed ⊢
    cases failure : s.bus.failure with
    | none =>
      rw [failure] at failed
      cases failed
    | some reason => rfl
  · obtain ⟨-, le, read⟩ := since.read i x hx
    rw [begun] at le read
    refine ⟨by omega, read, ?_⟩
    rw [s.bus.poll_eq_none_iff hx, List.filter_eq_nil_iff]
  · rcases use_cases s k u with same | ⟨i', hk', ⟨-, copied⟩ | ⟨c, called, went⟩⟩
    · rw [same]
    · rw [copied]
    · cases hk.symm.trans hk'
      rw [went]
      exact s.bus.answer_other c hj fun about => ne (subscriber?_of_call called about)

def note (id topic : String) : Message := ⟨id, topic, "k", "e", [], []⟩

/-- A subscriber of one topic and its copy, while publishing fails for a time. -/
def shared : List (Nat × Use) :=
  [(0, .publish (note "1" "a")), (0, .subscribe (some "b")), (1, .copy), (0, .failWith "down"),
    (1, .publish (note "2" "b")), (2, .recover), (2, .publish (note "3" "b")), (2, .poll)]

theorem copy_reads_for_both :
    (∀ u ∈ shared, u.2 ≠ .clear) ∧ (start.run shared).bus.log = [note "1" "a", note "3" "b"] ∧
      polled 1 (start.run shared).replies = [note "3" "b"] := by
  have keeps : ∀ u ∈ shared, u.2 ≠ .clear := by decide
  obtain ⟨log, -, -, read, -⟩ := subscribers_follow_log keeps
  exact ⟨keeps, log, (read 1 ⟨some "b", 2, [], []⟩ rfl).2.1⟩

end Correspondence
end EventDispatch
