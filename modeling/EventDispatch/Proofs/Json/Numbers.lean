import EventDispatch.Json.Reader
import EventDispatch.Proofs.Json.Strings
import EventDispatch.Proofs.Text.Digits

namespace EventDispatch.Json

open Scanner

variable {c : Char} {cs : List Char} {stack : List Bracket}

def digits (n : Nat) : Bytes := (Nat.toDigits 10 n).map byte

theorem isDigit_byte (digit : c.isDigit) : isDigit (byte c) := by
  obtain ⟨low, high⟩ := Text.toNat_of_isDigit digit
  have same : (byte c).toNat = c.toNat := Text.toNat_byte (by omega)
  simp only [isDigit, Bool.and_eq_true, decide_eq_true_eq, UInt8.le_iff_toNat_le, same]
  exact ⟨low, high⟩

theorem utf8_repr (n : Nat) : Text.utf8 (Nat.repr n) = digits n := by
  rw [Nat.repr_eq_ofList_toDigits, Text.utf8_ofList, Text.utf8_ascii, digits]
  intro c hc
  have bounds := Text.toNat_of_isDigit (Text.isDigit_of_mem_toDigits hc)
  omega

theorem foldl_byte (n : Nat) (all : ∀ c ∈ cs, c.isDigit) :
    (cs.map byte).foldl (fun n b => n * 10 + (b - byte '0').toNat) n = Nat.ofDigitChars 10 cs n := by
  induction cs generalizing n with
  | nil => simp
  | cons c cs ih =>
    obtain ⟨low, high⟩ := Text.toNat_of_isDigit (all c (by simp))
    have same : (byte c).toNat = c.toNat := Text.toNat_byte (by omega)
    have zero : byte '0' ≤ byte c := by
      rw [UInt8.le_iff_toNat_le, same]
      exact low
    rw [List.map_cons, List.foldl_cons, ih _ fun d hd => all d (List.mem_cons_of_mem c hd),
      Nat.ofDigitChars_cons, UInt8.toNat_sub_of_le _ _ zero, same, Nat.mul_comm]
    rfl

theorem digits?_digits (n : Nat) : digits? (digits n) = some n := by
  have all : (digits n).all isDigit := by
    rw [digits, List.all_map, List.all_eq_true]
    exact fun c hc => isDigit_byte (Text.isDigit_of_mem_toDigits hc)
  have filled : (digits n).isEmpty = false := by
    rw [digits, List.isEmpty_map, List.isEmpty_eq_false_iff]
    exact Nat.toDigits_ne_nil
  have value : (digits n).foldl (fun n b => n * 10 + (b - byte '0').toNat) 0 = n := by
    rw [digits, foldl_byte 0 fun c hc => Text.isDigit_of_mem_toDigits hc, Nat.ofDigitChars_ten_toDigits]
  simp only [digits?, all, filled, value]
  rfl

/-- Only zero is written with a leading zero. -/
theorem exists_toDigits (n : Nat) (positive : 0 < n) :
    ∃ d ds, Nat.toDigits 10 n = d :: ds ∧ d ≠ '0' := by
  induction n using Nat.strongRecOn with
  | _ n ih =>
    by_cases small : n < 10
    · refine ⟨n.digitChar, [], Nat.toDigits_of_lt_base small, fun zero => ?_⟩
      exact absurd (Nat.digitChar_eq_zero.1 zero) (by omega)
    · obtain ⟨d, ds, text, ne⟩ := ih (n / 10) (by omega) (by omega)
      refine ⟨d, ds ++ [(n % 10).digitChar], ?_, ne⟩
      rw [Nat.toDigits_of_base_le (by decide) (Nat.le_of_not_lt small), text, List.cons_append]

theorem feed_digits (all : ∀ c ∈ cs, c.isDigit) :
    feed ⟨.integer, stack⟩ (cs.map byte) = some ⟨.integer, stack⟩ := by
  induction cs with
  | nil => rfl
  | cons c cs ih =>
    have digit := isDigit_byte (all c (by simp))
    simp [feed_cons, step, digit, ih fun d hd => all d (List.mem_cons_of_mem c hd)]

/-- The digits of a number are a lone zero, or another digit and any digits after it. -/
theorem digits_cases (n : Nat) : digits n = [byte '0'] ∨
    ∃ k rest, digits n = k.toUInt8 :: rest ∧ 49 ≤ k ∧ k < 58 ∧
      ∀ stack, feed ⟨.integer, stack⟩ rest = some ⟨.integer, stack⟩ := by
  rcases Nat.eq_zero_or_pos n with rfl | positive
  · exact .inl rfl
  · obtain ⟨d, ds, text, ne⟩ := exists_toDigits n positive
    have all : ∀ c ∈ d :: ds, c.isDigit := fun c hc => Text.isDigit_of_mem_toDigits (text ▸ hc)
    obtain ⟨low, high⟩ := Text.toNat_of_isDigit (all d List.mem_cons_self)
    have other : d.toNat ≠ 48 := fun same => ne (by rw [← Char.ofNat_toNat d, same])
    refine .inr ⟨d.toNat, ds.map byte, by rw [digits, text]; rfl, by omega, by omega, fun stack => ?_⟩
    exact feed_digits fun c hc => all c (List.mem_cons_of_mem d hc)

theorem beginValue_digit : ∀ k < 58, 49 ≤ k →
    beginValue [] k.toUInt8 = some ⟨.integer, []⟩ ∧
      step ⟨.minus, []⟩ k.toUInt8 = some ⟨.integer, []⟩ ∧ k.toUInt8 ≠ byte '-' := by
  decide

theorem isValue_digits (n : Nat) : isValue (digits n) := by
  rcases digits_cases n with zero | ⟨k, rest, text, low, high, fed⟩
  · rw [zero]
    rfl
  · rw [text]
    exact isValue_of_begins (beginValue_digit k high low).1 (fed []) rfl

theorem isValue_negative (n : Nat) : isValue (byte '-' :: digits n) := by
  have begun : beginValue [] (byte '-') = some ⟨.minus, []⟩ := rfl
  rcases digits_cases n with zero | ⟨k, rest, text, low, high, fed⟩
  · rw [zero]
    rfl
  · have fed₁ : feed ⟨.minus, []⟩ (k.toUInt8 :: rest) = some ⟨.integer, []⟩ := by
      rw [feed_cons, (beginValue_digit k high low).2.1]
      exact fed []
    rw [text]
    exact isValue_of_begins begun fed₁ rfl

theorem natural?_digits {n : Nat} (fits : n < UInt64.size) : natural? (digits n) = some n := by
  simp [natural?, digits?_digits, fits]

def integer (i : Int) : Bytes := if i < 0 then byte '-' :: digits i.natAbs else digits i.natAbs

theorem utf8_reprInt (i : Int) : Text.utf8 (Int.repr i) = integer i := by
  cases i with
  | ofNat n => exact utf8_repr n
  | negSucc n =>
    have text : Int.repr (Int.negSucc n) = "-" ++ Nat.repr (n + 1) := rfl
    have sign : Text.utf8 "-" = [byte '-'] := by decide +kernel
    rw [text, Text.utf8_append, utf8_repr, sign, integer, if_pos (Int.negSucc_lt_zero n)]
    rfl

theorem isValue_integer (i : Int) : isValue (integer i) := by
  unfold integer
  split
  · exact isValue_negative _
  · exact isValue_digits _

theorem integer?_negative {n : Nat} (positive : 0 < n) (fits : n ≤ Nat.pow 2 63) :
    integer? (byte '-' :: digits n) = some (-(n : Int)) := by
  have kept : ((digits? (digits n)).filter fun n => 0 < n && n ≤ Nat.pow 2 63) = some n := by
    rw [digits?_digits]
    exact Option.filter_some_pos (by simp only [positive, fits]; rfl)
  simp only [integer?, beq_self_eq_true, if_true, kept]
  rfl

theorem integer?_digits {n : Nat} (fits : n < Nat.pow 2 63) :
    integer? (digits n) = some (n : Int) := by
  have kept : (digits? (digits n)).filter (· < Nat.pow 2 63) = some n := by
    rw [digits?_digits]
    exact Option.filter_some_pos (by simp only [fits]; rfl)
  rcases digits_cases n with zero | ⟨k, rest, text, low, high, -⟩
  · rw [zero] at kept ⊢
    simp only [integer?, kept]
    rfl
  · obtain ⟨-, -, other⟩ := beginValue_digit k high low
    rw [text] at kept ⊢
    simp only [integer?, beq_false_of_ne other, kept]
    rfl

theorem integer?_integer {i : Int} (low : -(Nat.pow 2 63 : Nat) ≤ i)
    (high : i < (Nat.pow 2 63 : Nat)) :
    integer? (integer i) = some i := by
  unfold integer
  split
  · next negative =>
    rw [integer?_negative (by omega) (by omega)]
    congr 1
    omega
  · next natural =>
    rw [integer?_digits (by omega)]
    congr 1
    omega

end EventDispatch.Json
