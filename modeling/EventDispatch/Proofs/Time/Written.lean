import EventDispatch.Proofs.Text.Digits
import EventDispatch.Time.Reader
import Mathlib.Tactic.SplitIfs

namespace EventDispatch.Timestamp

open Text

variable {ds rest : List Char} {limit width n : Nat} {t : Timestamp}

theorem isDigit_of_mem_padded {c : Char} (hc : c ∈ padded width n) : c.isDigit := by
  rcases List.mem_append.1 hc with zero | digit
  · rw [(List.mem_replicate.1 zero).2]
    rfl
  · exact isDigit_of_mem_toDigits digit

theorem length_padded (positive : 0 < width) (fits : n < Nat.pow 10 width) :
    (padded width n).length = width := by
  have short := (Nat.length_toDigits_le_iff (b := 10) (by decide) positive).2 fits
  simp only [padded, List.length_append, List.length_replicate]
  omega

theorem padded_ne_nil (width n : Nat) : padded width n ≠ [] := by
  simp [padded, Nat.toDigits_ne_nil]

theorem numberIn_padded : numberIn 10 (padded width n) = n := by
  rw [numberIn_eq_ofDigitChars fun c hc => isDigit_of_mem_padded hc, padded,
    Nat.ofDigitChars_append, Nat.ofDigitChars_replicate_zero, Nat.mul_zero,
    Nat.ofDigitChars_ten_toDigits]

/-- Digits are read up to the limit or to the first character that is none. -/
theorem digitsUpTo_append (digits : ∀ c ∈ ds, c.isDigit) (ne : ds ≠ []) (short : ds.length ≤ limit)
    (stops : ds.length = limit ∨ ∀ c ∈ rest.head?, c.isDigit = false) :
    digitsUpTo limit (ds ++ rest) = some (ds, rest) := by
  have stopped : (rest.take (limit - ds.length)).takeWhile Char.isDigit = [] := by
    rcases stops with full | other
    · simp [full]
    · cases rest with
      | nil => simp
      | cons c rest =>
        cases limit - ds.length with
        | zero => rfl
        | succ n => simp [other c rfl]
  have taken : ((ds ++ rest).take limit).takeWhile Char.isDigit = ds := by
    rw [List.take_append, List.take_of_length_le short, List.takeWhile_append_of_pos digits, stopped,
      List.append_nil]
  simp [digitsUpTo, taken, ne]

theorem digitsUpTo_padded (short : (padded width n).length ≤ limit)
    (stops : (padded width n).length = limit ∨ ∀ c ∈ rest.head?, c.isDigit = false) :
    digitsUpTo limit (padded width n ++ rest) = some (padded width n, rest) :=
  digitsUpTo_append (fun _ hc => isDigit_of_mem_padded hc) (padded_ne_nil _ _) short stops

/-- Written digits begin with a digit. -/
theorem exists_padded (width n : Nat) : ∃ d ds, padded width n = d :: ds ∧ d.isDigit := by
  obtain ⟨d, ds, text⟩ := List.exists_cons_of_ne_nil (padded_ne_nil width n)
  exact ⟨d, ds, text, isDigit_of_mem_padded (text ▸ List.mem_cons_self)⟩

theorem dropBlanks_padded (width n : Nat) (rest : List Char) :
    dropBlanks (padded width n ++ rest) = padded width n ++ rest := by
  obtain ⟨d, ds, text, digit⟩ := exists_padded width n
  rw [text, List.cons_append, dropBlanks_cons (not_blank_of_isDigit digit)]

theorem number_padded (fits : n < 100) (rest : List Char) :
    number 2 (padded 2 n ++ rest) = some (n, rest) := by
  have two : (padded 2 n).length = 2 := length_padded (by decide) fits
  simp [number, dropBlanks_padded, digitsUpTo_padded (Nat.le_of_eq two) (.inl two), numberIn_padded]

theorem year_of_digit {d : Char} {cs : List Char} (digit : d.isDigit) :
    year (d :: cs) = (digitsUpTo 4 (d :: cs)).map fun r => ((numberIn 10 r.1 : Int), r.2) := by
  have printed : dropBlanks (d :: cs) = d :: cs := dropBlanks_cons (not_blank_of_isDigit digit) cs
  unfold year
  split
  · next rest minus =>
    rw [printed] at minus
    cases minus
    cases digit
  · next rest plus =>
    rw [printed] at plus
    cases plus
    cases digit
  · rw [printed]
    cases digitsUpTo 4 (d :: cs) <;> rfl

theorem year_yearText (y : Int) (rest : List Char) :
    year (yearText y ++ '-' :: rest) = some (y, '-' :: rest) := by
  -- A signed year has as many digits as it needs, any other has four.
  have signed : ∀ n, digitsUpTo (padded 4 n ++ '-' :: rest).length (padded 4 n ++ '-' :: rest) =
      some (padded 4 n, '-' :: rest) := fun n => digitsUpTo_padded (by simp) (.inr (by simp))
  unfold yearText
  split
  · next negative =>
    have minus : dropBlanks ('-' :: (padded 4 y.natAbs ++ '-' :: rest)) =
        '-' :: (padded 4 y.natAbs ++ '-' :: rest) := rfl
    simp only [List.cons_append, year, minus, signed, Option.bind_eq_bind, Option.bind_some,
      numberIn_padded]
    rw [← Int.eq_neg_natAbs_of_nonpos (Int.le_of_lt negative)]
  split
  · next large =>
    have plus : dropBlanks ('+' :: (padded 4 y.natAbs ++ '-' :: rest)) =
        '+' :: (padded 4 y.natAbs ++ '-' :: rest) := rfl
    simp only [List.cons_append, year, plus, signed, Option.bind_eq_bind, Option.bind_some,
      numberIn_padded]
    rw [Int.natAbs_of_nonneg (by omega)]
  · next small =>
    obtain ⟨d, ds, text, digit⟩ := exists_padded 4 y.natAbs
    have four : (padded 4 y.natAbs).length = 4 :=
      length_padded (by decide) (show y.natAbs < 10000 by omega)
    have read : digitsUpTo 4 (padded 4 y.natAbs ++ '-' :: rest) =
        some (padded 4 y.natAbs, '-' :: rest) := digitsUpTo_padded (Nat.le_of_eq four) (.inl four)
    rw [text, List.cons_append] at read ⊢
    rw [year_of_digit digit, read, Option.map_some, ← text, numberIn_padded,
      Int.natAbs_of_nonneg (by omega)]

theorem readFraction_padded (short : (padded width n).length ≤ 9) :
    readFraction ('.' :: (padded width n ++ ['Z'])) =
      some (n * Nat.pow 10 (9 - (padded width n).length), ['Z']) := by
  have read : digitsUpTo 9 (padded width n ++ ['Z']) = some (padded width n, ['Z']) :=
    digitsUpTo_padded short (.inr (by simp))
  have last : ['Z'].dropWhile Char.isDigit = ['Z'] := rfl
  simp [readFraction, read, numberIn_padded, last]

theorem readFraction_fraction (fits : n < 1000000000) :
    readFraction (fraction n ++ ['Z']) = some (n, ['Z']) := by
  unfold fraction
  split
  · next zero =>
    subst zero
    rfl
  split
  · next millis =>
    have three : (padded 3 (n / 1000000)).length = 3 :=
      length_padded (by decide) (show n / 1000000 < 1000 by omega)
    have whole : n / 1000000 * Nat.pow 10 (9 - 3) = n :=
      Nat.div_mul_cancel (Nat.dvd_of_mod_eq_zero millis)
    rw [List.cons_append, readFraction_padded (by omega), three, whole]
  split
  · next micros =>
    have six : (padded 6 (n / 1000)).length = 6 :=
      length_padded (by decide) (show n / 1000 < 1000000 by omega)
    have whole : n / 1000 * Nat.pow 10 (9 - 6) = n :=
      Nat.div_mul_cancel (Nat.dvd_of_mod_eq_zero micros)
    rw [List.cons_append, readFraction_padded (by omega), six, whole]
  · have nine : (padded 9 n).length = 9 := length_padded (by decide) fits
    have whole : n * Nat.pow 10 (9 - 9) = n := Nat.mul_one n
    rw [List.cons_append, readFraction_padded (by omega), nine, whole]

theorem ofLocal?_utc (t : Timestamp) :
    ofLocal? t.date t.hour t.minute t.second t.nanosecond 0 = some t := by
  have hour := t.hour_lt
  have minute := t.minute_lt
  have second := t.second_le
  have nanosecond := t.nanosecond_lt
  have today : ((t.hour * 60 + t.minute : Nat) - (0 : Int)) / 1440 = 0 := by omega
  have inDay : (((t.hour * 60 + t.minute : Nat) - (0 : Int)) % 1440).toNat =
      t.hour * 60 + t.minute := by omega
  have hours : (t.hour * 60 + t.minute) / 60 = t.hour := by omega
  have minutes : (t.hour * 60 + t.minute) % 60 = t.minute := by omega
  have sameDay : shiftDays t.date 0 = some t.date := rfl
  simp only [ofLocal?, today, inDay, hours, minutes, sameDay, Option.bind_some]
  rw [dif_pos ⟨hour, minute, second, nanosecond⟩]

theorem ofFields?_date (d : Date) : Date.ofFields? d.year d.month d.day = some d :=
  dif_pos d.isDate

theorem mark_self {c : Char} (printed : isBlank c = false) (rest : List Char) :
    mark c (c :: rest) = some rest := by
  simp [mark, dropBlanks_cons printed]

theorem daysInMonth_le (year : Int) (month : Nat) : daysInMonth year month ≤ 31 := by
  unfold daysInMonth
  split_ifs <;> decide

/-- A moment is read back from its text. -/
theorem ofText?_toText (t : Timestamp) : ofText? t.toText = some t := by
  obtain ⟨-, -, -, lastMonth, -, lastDay⟩ := t.date.isDate
  have days := daysInMonth_le t.date.year t.date.month
  have dash : isBlank '-' = false := rfl
  have colon : isBlank ':' = false := rfl
  have month : t.date.month < 100 := by omega
  have day : t.date.day < 100 := by omega
  have hour := t.hour_lt
  have minute := t.minute_lt
  have second := t.second_le
  have ended (cs : List Char) : dateEnd ('T' :: cs) = some cs := rfl
  have utc : offset (dropBlanks ['Z']) = some (0, []) := rfl
  rw [ofText?, toText, String.toList_ofList, chars]
  simp only [List.append_assoc, List.cons_append]
  -- One step for each part of the text, in the order of the reader.
  refine Option.bind_eq_some_iff.2 ⟨_, year_yearText _ _, ?_⟩
  refine Option.bind_eq_some_iff.2 ⟨_, mark_self dash _, ?_⟩
  refine Option.bind_eq_some_iff.2 ⟨_, number_padded month _, ?_⟩
  refine Option.bind_eq_some_iff.2 ⟨_, mark_self dash _, ?_⟩
  refine Option.bind_eq_some_iff.2 ⟨_, number_padded day _, ?_⟩
  refine Option.bind_eq_some_iff.2 ⟨_, ended _, ?_⟩
  refine Option.bind_eq_some_iff.2 ⟨_, number_padded (by omega) _, ?_⟩
  refine Option.bind_eq_some_iff.2 ⟨_, mark_self colon _, ?_⟩
  refine Option.bind_eq_some_iff.2 ⟨_, number_padded (by omega) _, ?_⟩
  refine Option.bind_eq_some_iff.2 ⟨_, mark_self colon _, ?_⟩
  refine Option.bind_eq_some_iff.2 ⟨_, number_padded (by omega) _, ?_⟩
  refine Option.bind_eq_some_iff.2 ⟨_, readFraction_fraction t.nanosecond_lt, ?_⟩
  refine Option.bind_eq_some_iff.2 ⟨_, utc, ?_⟩
  refine Option.bind_eq_some_iff.2 ⟨_, ofFields?_date t.date, ?_⟩
  rw [if_pos ⟨hour, minute, rfl⟩, ofLocal?_utc]

end EventDispatch.Timestamp
