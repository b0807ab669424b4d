import EventDispatch.Json.Reader
import EventDispatch.Proofs.Json.Strings
import Mathlib.Data.List.Forall2

namespace EventDispatch.Json

open Scanner

variable {p : Place} {stack outer : List Bracket} {inner : Bracket} {b : UInt8} {m : String × Bytes}
  {ms : List (String × Bytes)} {v key text part bs rest : Bytes} {parts : List Bytes} {name : String}
  {fuel : Nat}

def Blanks (bs : Bytes) : Prop := ∀ b ∈ bs, isBlank b

instance : Decidable (Blanks bs) := inferInstanceAs (Decidable (∀ b ∈ bs, isBlank b))

inductive Padded (text : Bytes) : Bytes → Prop where
  | intro {before after : Bytes} (blanks : Blanks before) (blanks' : Blanks after) :
      Padded text (before ++ text ++ after)

def closedBy (close : UInt8) : List Bytes → Bytes
  | [] => [close]
  | [part] => part ++ [close]
  | part :: next :: parts => part ++ byte ',' :: closedBy close (next :: parts)

inductive SpellsMember (m : String × Bytes) : Bytes → Prop where
  | intro {key keyText valueText : Bytes} (isKey : isValue key) (named : string? key = some m.1)
      (keyPadded : Padded key keyText) (value : isValue m.2) (valuePadded : Padded m.2 valueText) :
      SpellsMember m (keyText ++ byte ':' :: valueText)

/-- The text stands for an object with these members. -/
inductive SpellsObject : List (String × Bytes) → Bytes → Prop where
  | empty {inside : Bytes} (blanks : Blanks inside) :
      SpellsObject [] (byte '{' :: (inside ++ [byte '}']))
  | filled {ms : List (String × Bytes)} {parts : List Bytes} (some : ms ≠ [])
      (spelled : List.Forall₂ SpellsMember ms parts) :
      SpellsObject ms (byte '{' :: closedBy (byte '}') parts)

theorem padded_self (text : Bytes) : Padded text text := by
  have bare : Padded text ([] ++ text ++ []) := .intro (by simp [Blanks]) (by simp [Blanks])
  simpa using bare

theorem blank_endsNumber (blank : isBlank b) : endsNumber b := by
  simp only [isBlank, Bool.or_eq_true, beq_iff_eq] at blank
  rcases blank with ((rfl | rfl) | rfl) | rfl <;> rfl

theorem length_le_closedBy (close : UInt8) (parts : List Bytes) :
    parts.length ≤ (closedBy close parts).length := by
  induction parts with
  | nil => exact Nat.zero_le _
  | cons part parts ih =>
    cases parts with
    | nil => simp [closedBy]
    | cons next parts =>
      simp only [closedBy, List.length_append, List.length_cons] at ih ⊢
      omega

theorem closedBy_cons (close : UInt8) (part : Bytes) (parts : List Bytes) :
    ∃ b rest, closedBy close (part :: parts) = part ++ b :: rest := by
  cases parts with
  | nil => exact ⟨_, _, rfl⟩
  | cons next parts => exact ⟨_, _, rfl⟩

section Scanning

/-- Where blanks may stand before the next part of a text. -/
def Place.isWaiting : Place → Bool
  | .value => true
  | .valueOrEnd => true
  | .key => true
  | .keyOrEnd => true
  | .colon => true
  | _ => false

theorem feed_blanks (waiting : p.isWaiting) (blanks : Blanks bs) (rest : Bytes) :
    feed ⟨p, stack⟩ (bs ++ rest) = feed ⟨p, stack⟩ rest := by
  induction bs with
  | nil => rfl
  | cons b bs ih =>
    obtain ⟨blank, blanks⟩ := List.forall_mem_cons.1 blanks
    have stays : step ⟨p, stack⟩ b = some ⟨p, stack⟩ := by
      cases p <;> cases waiting <;> simp [step, blank]
    rw [List.cons_append, feed_cons, stays]
    exact ih blanks

theorem feed_after (blanks : Blanks bs) (rest : Bytes) :
    feed ⟨.after, inner :: outer⟩ (bs ++ rest) = feed ⟨.after, inner :: outer⟩ rest := by
  induction bs with
  | nil => rfl
  | cons b bs ih =>
    obtain ⟨blank, blanks⟩ := List.forall_mem_cons.1 blanks
    have stays : step ⟨.after, inner :: outer⟩ b = some ⟨.after, inner :: outer⟩ := by
      cases inner <;> simp [step, afterValue, blank]
    rw [List.cons_append, feed_cons, stays]
    exact ih blanks

/-- Scanned as one part between commas, up to the byte after it. -/
def Fits (p : Place) (stack : List Bracket) (part : Bytes) : Prop :=
  ∀ b rest, endsNumber b →
    feed ⟨p, stack⟩ (part ++ b :: rest) = (afterValue stack b).bind (·.feed rest)

theorem value_fits (hv : isValue v) (padded : Padded v text) :
    Fits .value (inner :: outer) text ∧ Fits .valueOrEnd (inner :: outer) text := by
  obtain ⟨blanks, blanks'⟩ := padded
  rename_i before after
  suffices fits : ∀ b rest, endsNumber b → ∀ p, p = .value ∨ p = .valueOrEnd →
      feed ⟨p, inner :: outer⟩ (v ++ (after ++ b :: rest)) =
        (afterValue (inner :: outer) b).bind (·.feed rest) by
    constructor <;> intro b rest ends
    · rw [List.append_assoc, List.append_assoc, feed_blanks rfl blanks]
      exact fits b rest ends _ (.inl rfl)
    · rw [List.append_assoc, List.append_assoc, feed_blanks rfl blanks]
      exact fits b rest ends _ (.inr rfl)
  intro b rest ends p hp
  have next : ∀ c rest, endsNumber c → feed ⟨p, inner :: outer⟩ (v ++ c :: rest) =
      (afterValue (inner :: outer) c).bind (·.feed rest) := by
    intro c rest ends
    rcases hp with rfl | rfl
    · exact (feed_value hv ends rest).1
    · exact (feed_value hv ends rest).2
  cases after with
  | nil => exact next b rest ends
  | cons c cs =>
    -- The first blank ends the value, and the others change nothing.
    obtain ⟨blank, more⟩ := List.forall_mem_cons.1 blanks'
    have ended : afterValue (inner :: outer) c = some ⟨.after, inner :: outer⟩ := by
      cases inner <;> simp [afterValue, blank]
    rw [List.cons_append, next c _ (blank_endsNumber blank), ended, Option.bind_some, feed_after more,
      feed_cons]
    rfl

/-- The place in a key that is scanned where this place in another string is. -/
def Place.inKey : Place → Place
  | .string _ => .string true
  | .escape _ => .escape true
  | .hex _ left => .hex true left
  | _ => .colon

def Place.isInString : Place → Bool
  | .string isKey => !isKey
  | .escape isKey => !isKey
  | .hex isKey _ => !isKey
  | _ => false

theorem Place.not_isEnd_of_isInString (inside : p.isInString) : p.isEnd = false := by
  cases p <;> simp_all [isInString, isEnd]

theorem step_inKey {s : Scanner} (inside : p.isInString) (next : step ⟨p, []⟩ b = some s) :
    s.stack = [] ∧ (s.place.isInString ∨ s.place = .after) ∧
      step ⟨p.inKey, stack⟩ b = some ⟨s.place.inKey, stack⟩ := by
  cases p with
  | string isKey | escape isKey =>
    cases isKey with
    | true => cases inside
    | false =>
      simp only [step, Place.inKey] at next ⊢
      split_ifs at next ⊢ <;> cases next <;> simp [Place.isInString, endOfString]
  | hex isKey left =>
    cases isKey with
    | true => cases inside
    | false =>
      simp only [step, Place.inKey] at next ⊢
      split_ifs at next ⊢ <;> cases next <;> simp_all [Place.isInString]
  | _ => cases inside

theorem feed_inKey {s : Scanner} (inside : p.isInString) (fed : feed ⟨p, []⟩ bs = some s)
    (complete : s.isComplete) : feed ⟨p.inKey, stack⟩ bs = some ⟨.colon, stack⟩ := by
  induction bs generalizing p with
  | nil =>
    cases fed
    obtain ⟨-, ended⟩ := isComplete_iff.1 complete
    rw [Place.not_isEnd_of_isInString inside] at ended
    cases ended
  | cons b bs ih =>
    obtain ⟨⟨p', stack'⟩, next, fed⟩ := Option.bind_eq_some_iff.1 fed
    obtain ⟨rfl, place, next'⟩ := step_inKey inside next
    rw [feed_cons, next', Option.bind_some]
    rcases place with inside | rfl
    · exact ih inside fed
    · -- Nothing follows the closing quote.
      cases bs with
      | nil => rfl
      | cons c bs => cases fed

theorem feed_key (hp : p = .key ∨ p = .keyOrEnd) (isKey : isValue key)
    (named : string? key = some name) : feed ⟨p, stack⟩ key = some ⟨.colon, stack⟩ := by
  obtain ⟨b, r, s, s', rfl, begun, fed, complete⟩ := begins_of_scan (isValue_iff.1 isKey)
  obtain rfl : b = byte '"' := by
    by_contra other
    simp [string?, other] at named
  cases begun
  have opened : step ⟨p, stack⟩ (byte '"') = some ⟨.string true, stack⟩ := by
    rcases hp with rfl | rfl <;> rfl
  rw [feed_cons, opened]
  exact feed_inKey (p := .string false) rfl fed complete

theorem member_fits (spelled : SpellsMember m part) (hp : p = .key ∨ p = .keyOrEnd) :
    Fits p (inner :: outer) part := by
  obtain ⟨isKey, named, keyPadded, hv, valuePadded⟩ := spelled
  obtain ⟨blanks, blanks'⟩ := keyPadded
  intro b rest ends
  have waiting : p.isWaiting := by
    rcases hp with rfl | rfl <;> rfl
  simp only [List.append_assoc, List.cons_append]
  rw [feed_blanks waiting blanks, feed_append, feed_key hp isKey named, Option.bind_some,
    feed_blanks rfl blanks', feed_cons]
  exact (value_fits hv valuePadded).1 b rest ends

theorem members_fit (spelled : List.Forall₂ SpellsMember ms parts) : ∀ part ∈ parts,
    Fits .keyOrEnd (inner :: outer) part ∧ Fits .key (inner :: outer) part := by
  induction spelled with
  | nil => simp
  | cons first rest ih =>
    exact List.forall_mem_cons.2 ⟨⟨member_fits first (.inr rfl), member_fits first (.inl rfl)⟩, ih⟩

theorem feed_closedBy {next : Place} {close : UInt8} (ends : endsNumber close)
    (comma : afterValue stack (byte ',') = some ⟨next, stack⟩) (ne : parts ≠ [])
    (fit : ∀ part ∈ parts, Fits p stack part ∧ Fits next stack part) :
    feed ⟨p, stack⟩ (closedBy close parts) = afterValue stack close := by
  -- The first part may stand where the bracket could close as well, and no later one does.
  induction parts generalizing p with
  | nil => exact absurd rfl ne
  | cons part parts ih =>
    obtain ⟨fits, -⟩ := fit part (by simp)
    cases parts with
    | nil =>
      rw [closedBy, fits close [] ends]
      exact Option.bind_fun_some _
    | cons other parts =>
      have later : ∀ q ∈ other :: parts, Fits next stack q ∧ Fits next stack q := fun q hq =>
        ⟨(fit q (List.mem_cons_of_mem part hq)).2, (fit q (List.mem_cons_of_mem part hq)).2⟩
      rw [closedBy, fits (byte ',') _ rfl, comma]
      exact ih (by simp) later

theorem SpellsObject.exists_feed (spelled : SpellsObject ms text) : ∃ r, text = byte '{' :: r ∧
    feed ⟨.keyOrEnd, [.object]⟩ r = some ⟨.after, []⟩ := by
  cases spelled with
  | empty blanks => exact ⟨_, rfl, feed_blanks rfl blanks _⟩
  | @filled _ parts some spelled =>
    have ne : parts ≠ [] := by
      rintro rfl
      exact some (List.forall₂_nil_right_iff.1 spelled)
    have comma : afterValue [.object] (byte ',') = Option.some ⟨.key, [.object]⟩ := rfl
    exact ⟨_, rfl, feed_closedBy rfl comma ne (members_fit spelled)⟩

theorem SpellsObject.isValue (spelled : SpellsObject ms text) : isValue text := by
  obtain ⟨r, rfl, fed⟩ := spelled.exists_feed
  exact isValue_of_begins rfl fed rfl

/-- Nothing goes on with an object. -/
theorem SpellsObject.scan (spelled : SpellsObject ms text) (rest : Bytes) :
    scan (text ++ rest) = some (text, rest) := by
  obtain ⟨r, rfl, fed⟩ := spelled.exists_feed
  have begun : beginValue [] (byte '{') = some ⟨.keyOrEnd, [.object]⟩ := rfl
  have ran : run ⟨.keyOrEnd, [.object]⟩ (r ++ rest) = some (r, rest) :=
    run_of_feed fed rfl fun b _ => rfl
  rw [List.cons_append, Json.scan, begun, Option.bind_some, ran]
  rfl

end Scanning

section Reading

theorem skipBlanks_blanks (blanks : Blanks bs) (rest : Bytes) :
    skipBlanks (bs ++ rest) = skipBlanks rest :=
  List.dropWhile_append_of_pos blanks

/-- A value is read up to the blanks after it. -/
theorem scan_padded (rest : Bytes) (hv : isValue v) (padded : Padded v text)
    (ends : ∀ b ∈ rest.head?, endsNumber b) :
    ∃ after, Blanks after ∧ scan (skipBlanks (text ++ rest)) = some (v, after ++ rest) := by
  obtain ⟨blanks, blanks'⟩ := padded
  rename_i before after
  refine ⟨after, blanks', ?_⟩
  rw [List.append_assoc, List.append_assoc, skipBlanks_blanks blanks, skipBlanks_value hv]
  apply scan_value hv
  cases after with
  | nil => exact ends
  | cons c cs =>
    rintro b ⟨⟩
    exact blank_endsNumber (blanks' _ List.mem_cons_self)

/-- A whole text is read without the blanks around it. -/
theorem document_padded (hv : isValue v) (padded : Padded v text) : document text = some v := by
  obtain ⟨after, blanks, scanned⟩ := scan_padded [] hv padded (by simp)
  have ended : skipBlanks after = [] := by
    simpa [skipBlanks] using skipBlanks_blanks blanks []
  rw [List.append_nil, List.append_nil] at scanned
  rw [document, scanned]
  simp [ended]

/-- A reader that stops at the closing byte and goes on after a comma reads all parts, when each of
them costs it one unit of fuel. -/
theorem read_closedBy {α : Type} {read : Nat → Bytes → Option (List α)} {Spells : α → Bytes → Prop}
    {close : UInt8} {as : List α}
    (last : ∀ a part, Spells a part → ∀ fuel, read (fuel + 1) (part ++ [close]) = some [a])
    (more : ∀ a part, Spells a part → ∀ fuel rest,
      read (fuel + 1) (part ++ byte ',' :: rest) = (read fuel rest).map (a :: ·))
    (spelled : List.Forall₂ Spells as parts) (ne : as ≠ []) (enough : as.length ≤ fuel) :
    read fuel (closedBy close parts) = some as := by
  induction spelled generalizing fuel with
  | nil => exact absurd rfl ne
  | @cons a part as parts first spelled ih =>
    obtain _ | fuel := fuel
    · simp at enough
    cases spelled with
    | nil => exact last a part first fuel
    | cons other spelled =>
      rw [closedBy, more a part first, ih (by simp) (Nat.le_of_succ_le_succ enough)]
      rfl

theorem membersFrom_part (spelled : SpellsMember m part) (ends : endsNumber b)
    (printed : isBlank b = false) (rest : Bytes) :
    membersFrom (fuel + 1) (part ++ b :: rest) =
      if b == byte ',' then (membersFrom fuel rest).map (m :: ·)
      else if b == byte '}' then some [m] else none := by
  obtain ⟨isKey, named, keyPadded, hv, valuePadded⟩ := spelled
  rename_i key keyText valueText
  obtain ⟨after, blanks, readKey⟩ :=
    scan_padded (byte ':' :: (valueText ++ b :: rest)) isKey keyPadded (by rintro _ ⟨⟩; rfl)
  obtain ⟨after', blanks', readValue⟩ :=
    scan_padded (b :: rest) hv valuePadded (by rintro _ ⟨⟩; exact ends)
  have colon : expect ':' (after ++ byte ':' :: (valueText ++ b :: rest)) =
      some (valueText ++ b :: rest) := by
    rw [expect, skipBlanks_blanks blanks]
    rfl
  have next : skipBlanks (after' ++ b :: rest) = b :: rest := by
    rw [skipBlanks_blanks blanks']
    simp [skipBlanks, printed]
  rw [List.append_assoc, List.cons_append]
  simp only [membersFrom, readKey, Option.bind_eq_bind, Option.bind_some, named, colon, readValue, next]

theorem itemsFrom_part (hv : isValue v) (padded : Padded v part) (ends : endsNumber b)
    (printed : isBlank b = false) (rest : Bytes) :
    itemsFrom (fuel + 1) (part ++ b :: rest) =
      if b == byte ',' then (itemsFrom fuel rest).map (v :: ·)
      else if b == byte ']' then some [v] else none := by
  obtain ⟨after, blanks, read⟩ :=
    scan_padded (b :: rest) hv padded (by rintro _ ⟨⟩; exact ends)
  have next : skipBlanks (after ++ b :: rest) = b :: rest := by
    rw [skipBlanks_blanks blanks]
    simp [skipBlanks, printed]
  simp only [itemsFrom, read, Option.bind_eq_bind, Option.bind_some, next]

/-- No closing bracket stands where a value begins. -/
theorem expect_padded {c : Char} (hv : isValue v) (padded : Padded v text) (rest : Bytes)
    (other : beginValue [] (byte c) = none) : expect c (text ++ rest) = none := by
  obtain ⟨blanks, -⟩ := padded
  obtain ⟨b, r, s, -, rfl, begun, -⟩ := begins_of_scan (isValue_iff.1 hv)
  have differs : b ≠ byte c := by
    rintro rfl
    rw [begun] at other
    cases other
  rw [List.append_assoc, List.append_assoc, expect, skipBlanks_blanks blanks, skipBlanks_value hv]
  simp [differs]

/-- An object is read as its members, however it is laid out. -/
theorem SpellsObject.members? (spelled : SpellsObject ms text) : members? text = some ms := by
  cases spelled with
  | @empty inside blanks =>
    have opened : expect '{' (byte '{' :: (inside ++ [byte '}'])) = some (inside ++ [byte '}']) := rfl
    have closed : expect '}' (inside ++ [byte '}']) = some [] := by
      rw [expect, skipBlanks_blanks blanks]
      rfl
    simp [Json.members?, opened, closed]
  | @filled ms parts some spelled =>
    have opened : expect '{' (byte '{' :: closedBy (byte '}') parts) =
        Option.some (closedBy (byte '}') parts) := rfl
    have filled : expect '}' (closedBy (byte '}') parts) = none := by
      cases spelled with
      | nil => exact absurd rfl some
      | @cons m part ms parts first _ =>
        obtain ⟨b, rest, text⟩ := closedBy_cons (byte '}') part parts
        obtain ⟨isKey, -, keyPadded, -, -⟩ := first
        rw [text, List.append_assoc]
        exact expect_padded isKey keyPadded _ rfl
    have enough : ms.length ≤ (byte '{' :: closedBy (byte '}') parts).length := by
      have room := length_le_closedBy (byte '}') parts
      rw [spelled.length_eq, List.length_cons]
      omega
    simp only [Json.members?, opened, Option.bind_eq_bind, Option.bind_some, filled,
      Option.isSome_none]
    exact read_closedBy (fun _ _ spelled _ => membersFrom_part spelled rfl rfl [])
      (fun _ _ spelled _ rest => membersFrom_part spelled rfl rfl rest) spelled some enough

end Reading

section Exact

theorem exists_blanks (bs : Bytes) : ∃ blanks, Blanks blanks ∧ bs = blanks ++ skipBlanks bs := by
  refine ⟨bs.takeWhile isBlank, ?_, List.takeWhile_append_dropWhile.symm⟩
  exact List.all_eq_true.1 List.all_takeWhile

theorem exists_blanks_of_expect {c : Char} (found : expect c bs = some rest) :
    ∃ blanks, Blanks blanks ∧ bs = blanks ++ byte c :: rest := by
  obtain ⟨blanks, hb, text⟩ := exists_blanks bs
  unfold expect at found
  split at found
  · next b rest' next =>
    split_ifs at found with same
    cases found
    rw [beq_iff_eq.1 same] at next
    exact ⟨blanks, hb, next ▸ text⟩
  · cases found

/-- What is scanned after blanks stands there, with any blanks after it. -/
theorem exists_padded_of_scan (scanned : scan (skipBlanks bs) = some (v, rest)) :
    isValue v ∧ ∃ text, Padded v text ∧ bs = text ++ skipBlanks rest := by
  obtain ⟨before, blanks, text⟩ := exists_blanks bs
  obtain ⟨after, blanks', text'⟩ := exists_blanks rest
  refine ⟨isValue_of_scan scanned, _, .intro blanks blanks', ?_⟩
  rw [text, ← scan_append scanned, List.append_assoc, List.append_assoc, ← text']

theorem spells_of_membersFrom (read : membersFrom fuel bs = some ms) :
    ms ≠ [] ∧ ∃ parts rest, List.Forall₂ SpellsMember ms parts ∧
      bs = closedBy (byte '}') parts ++ rest := by
  induction fuel generalizing bs ms with
  | zero => cases read
  | succ fuel ih =>
    simp only [membersFrom, Option.bind_eq_bind, Option.bind_eq_some_iff] at read
    obtain ⟨⟨key, rest₁⟩, scanned, name, named, rest₂, colon, ⟨v, rest₃⟩, scanned', last⟩ := read
    obtain ⟨isKey, keyText, keyPadded, text₁⟩ := exists_padded_of_scan scanned
    obtain ⟨hv, valueText, valuePadded, text₃⟩ := exists_padded_of_scan scanned'
    obtain ⟨blanks, hb, text₂⟩ := exists_blanks_of_expect colon
    have first : SpellsMember (name, v) (keyText ++ byte ':' :: valueText) :=
      .intro isKey named keyPadded hv valuePadded
    simp only at text₂ last
    have colon : skipBlanks (byte ':' :: rest₂) = byte ':' :: rest₂ := rfl
    have text : bs = (keyText ++ byte ':' :: valueText) ++ skipBlanks rest₃ := by
      rw [text₁, text₂, skipBlanks_blanks hb, colon, text₃, List.append_assoc, List.cons_append]
    split at last
    · cases last
    · next b rest next =>
      rw [next] at text
      split_ifs at last with comma close
      · obtain ⟨more, read, rfl⟩ := Option.map_eq_some_iff.1 last
        obtain ⟨some, parts, rest', spelled, text'⟩ := ih read
        refine ⟨by simp, _, rest', .cons first spelled, ?_⟩
        rw [text, text', beq_iff_eq.1 comma]
        cases spelled with
        | nil => exact absurd rfl some
        | cons => simp [closedBy]
      · cases last
        refine ⟨by simp, _, rest, .cons first .nil, ?_⟩
        rw [text, beq_iff_eq.1 close]
        simp [closedBy]

/-- A value that is read as certain members is a text of an object with these members. -/
theorem spellsObject_of_members? (hv : isValue text) (read : members? text = some ms) :
    SpellsObject ms text := by
  obtain ⟨inside, opened, read⟩ := Option.bind_eq_some_iff.1 read
  obtain ⟨blanks, hb, opening⟩ := exists_blanks_of_expect opened
  -- A value begins with no blank, and nothing follows it.
  obtain rfl : text = byte '{' :: inside := by
    have bare := skipBlanks_value hv []
    rw [List.append_nil, opening, skipBlanks_blanks hb] at bare
    exact opening.trans bare.symm
  have alone {object rest : Bytes} (spelled : SpellsObject ms object)
      (front : byte '{' :: inside = object ++ rest) : SpellsObject ms (byte '{' :: inside) := by
    have scanned := spelled.scan rest
    rw [← front, isValue_iff.1 hv] at scanned
    cases scanned
    exact spelled
  split at read
  · next closed =>
    cases read
    obtain ⟨rest, closed⟩ := Option.isSome_iff_exists.1 closed
    obtain ⟨blanks, hb, text⟩ := exists_blanks_of_expect closed
    apply alone (.empty hb)
    rw [text, List.cons_append, List.append_assoc]
    rfl
  · obtain ⟨some, parts, rest, spelled, text⟩ := spells_of_membersFrom read
    exact alone (.filled some spelled) (congrArg (byte '{' :: ·) text)

theorem spellsObject_iff : SpellsObject ms text ↔ isValue text ∧ members? text = some ms :=
  ⟨fun spelled => ⟨spelled.isValue, spelled.members?⟩,
    fun ⟨hv, read⟩ => spellsObject_of_members? hv read⟩

end Exact
end EventDispatch.Json
