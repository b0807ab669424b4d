import EventDispatch.Text.Blank
import EventDispatch.Text.Digits

namespace EventDispatch.Text

theorem toNat_of_isDigit {c : Char} (digit : c.isDigit) : 48 ≤ c.toNat ∧ c.toNat ≤ 57 := by
  obtain ⟨low, high⟩ := Bool.and_eq_true_iff.1 digit
  exact ⟨by simpa [UInt32.le_iff_toNat_le] using low, by simpa [UInt32.le_iff_toNat_le] using high⟩

theorem isDigit_of_mem_toDigits {c : Char} {n : Nat} (hc : c ∈ Nat.toDigits 10 n) : c.isDigit :=
  Nat.isDigit_of_mem_toDigits (by decide) (by decide) hc

theorem numberIn_eq_ofDigitChars {ds : List Char} (digits : ∀ c ∈ ds, c.isDigit) :
    numberIn 10 ds = Nat.ofDigitChars 10 ds 0 := by
  unfold numberIn
  generalize 0 = n
  induction ds generalizing n with
  | nil => simp
  | cons c ds ih =>
    have digit : c.isDigit := digits c (by simp)
    rw [List.foldl_cons, ih (fun d hd => digits d (List.mem_cons_of_mem c hd)), Nat.ofDigitChars_cons,
      digitValue, if_pos digit, Nat.mul_comm]

theorem dropBlanks_cons {c : Char} (printed : isBlank c = false) (rest : List Char) :
    dropBlanks (c :: rest) = c :: rest := by
  simp [dropBlanks, printed]

theorem not_blank_of_isDigit {c : Char} (digit : c.isDigit) : isBlank c = false := by
  obtain ⟨low, high⟩ := toNat_of_isDigit digit
  simp [isBlank]
  omega

end EventDispatch.Text
