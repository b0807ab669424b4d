import EventDispatch.Json.Text
import EventDispatch.Proofs.Json.Scanning
import EventDispatch.Proofs.Text.Utf8

namespace EventDispatch.Json

open Scanner

variable {c : Char} {w rest : Bytes} {b e : UInt8} {isKey : Bool} {stack : List Bracket}

/-- The bytes that stand for a character between quotes. -/
inductive Written (c : Char) : Bytes → Prop where
  | simple {e : UInt8} (read : simpleEscape? e = some (byte c)) (ascii : c.toNat < 0x80) :
      Written c [byte '\\', e]
  | unit {h₁ h₂ h₃ h₄ : UInt8} (read : codeUnit? [h₁, h₂, h₃, h₄] = some c.toNat)
      (control : c.toNat < 0x20) : Written c [byte '\\', byte 'u', h₁, h₂, h₃, h₄]
  | itself (plain : ∀ b ∈ String.utf8EncodeChar c, b ≠ byte '"' ∧ b ≠ byte '\\' ∧ ¬b < 0x20) :
      Written c (String.utf8EncodeChar c)

def written (c : Char) : Bytes := (escapeChar c).flatMap String.utf8EncodeChar

theorem codeUnit?_control : ∀ n < 0x20,
    codeUnit? [byte '0', byte '0', byte (hexDigit (n / 16)), byte (hexDigit (n % 16))] = some n := by
  decide

theorem hexDigit_ascii : ∀ n < 0x10, (hexDigit n).toNat < 0x80 := by
  decide

theorem written_control (control : c.toNat < 0x20) :
    Written c (['\\', 'u', '0', '0', hexDigit (c.toNat / 16), hexDigit (c.toNat % 16)].flatMap
      String.utf8EncodeChar) := by
  rw [Text.utf8_ascii]
  · exact .unit (codeUnit?_control _ control) control
  · have high := hexDigit_ascii (c.toNat / 16) (by omega)
    have low := hexDigit_ascii (c.toNat % 16) (by omega)
    simp [high, low]

theorem written_plain (quote : c ≠ '"') (backslash : c ≠ '\\') (printed : ¬c.toNat < 0x20) :
    Written c ([c].flatMap String.utf8EncodeChar) := by
  rw [List.flatMap_singleton]
  refine .itself fun b hb => ?_
  rw [UInt8.lt_iff_toNat_lt]
  by_cases ascii : c.toNat < 0x80
  · rw [Text.utf8EncodeChar_ascii ascii, List.mem_singleton] at hb
    subst hb
    rw [Text.toNat_byte ascii]
    exact ⟨fun same => quote (Text.byte_inj ascii (by decide) same),
      fun same => backslash (Text.byte_inj ascii (by decide) same), printed⟩
  · have outside := Text.le_of_mem_utf8EncodeChar (Nat.le_of_not_lt ascii) hb
    rw [UInt8.le_iff_toNat_le] at outside
    refine ⟨?_, ?_, fun low => ?_⟩
    · rintro rfl
      exact absurd outside (by decide)
    · rintro rfl
      exact absurd outside (by decide)
    · exact absurd (Nat.lt_of_le_of_lt outside low) (by decide)

theorem written_spec (c : Char) : Written c (written c) := by
  unfold written escapeChar
  split
  · exact .simple (e := byte '"') rfl (by decide)
  · exact .simple (e := byte '\\') rfl (by decide)
  · exact .simple (e := byte 'b') rfl (by decide)
  · exact .simple (e := byte 'f') rfl (by decide)
  · exact .simple (e := byte 'n') rfl (by decide)
  · exact .simple (e := byte 'r') rfl (by decide)
  · exact .simple (e := byte 't') rfl (by decide)
  · next quote backslash _ _ _ _ _ =>
    split
    -- What has no short escape is a control, or stands for itself.
    · next control => exact written_control control
    · next printed => exact written_plain quote backslash printed

theorem backslash_inside : byte '\\' ≠ byte '"' ∧ ¬byte '\\' < 0x20 := by
  decide

theorem unescape_simple (read : simpleEscape? e = some b) (rest : Bytes) :
    unescape (byte '\\' :: e :: rest) = (unescape rest).map (b :: ·) := by
  have other : e ≠ byte 'u' := by
    rintro rfl
    cases read
  rw [unescape.eq_def]
  simp [backslash_inside, other, read]

theorem unescape_unit {h₁ h₂ h₃ h₄ : UInt8} {n : Nat} (read : codeUnit? [h₁, h₂, h₃, h₄] = some n)
    (lone : n < 0xD800) (rest : Bytes) :
    unescape (byte '\\' :: byte 'u' :: h₁ :: h₂ :: h₃ :: h₄ :: rest) =
      (unescape rest).map (charBytes n ++ ·) := by
  have trailing : isTrailing n = false := by
    simp [isTrailing]
    omega
  have leading : isLeading n = false := by
    simp [isLeading]
    omega
  rw [unescape.eq_def]
  simp [backslash_inside, read, trailing, leading]

theorem unescape_plain {bs : Bytes}
    (plain : ∀ b ∈ bs, b ≠ byte '"' ∧ b ≠ byte '\\' ∧ ¬b < 0x20) (rest : Bytes) :
    unescape (bs ++ rest) = (unescape rest).map (bs ++ ·) := by
  induction bs with
  | nil => simp
  | cons b bs ih =>
    obtain ⟨quote, backslash, printed⟩ := plain b (by simp)
    rw [List.cons_append, unescape.eq_def]
    simp [quote, backslash, printed, ih fun d hd => plain d (List.mem_cons_of_mem b hd),
      Function.comp_def]

theorem unescape_written (hw : Written c w) (rest : Bytes) :
    unescape (w ++ rest) = (unescape rest).map (String.utf8EncodeChar c ++ ·) := by
  cases hw with
  | simple read ascii =>
    rw [Text.utf8EncodeChar_ascii ascii]
    exact unescape_simple read rest
  | unit read control =>
    have same : charBytes c.toNat = String.utf8EncodeChar c := by
      rw [charBytes, Char.ofNat_toNat]
    rw [← same]
    exact unescape_unit read (by omega) rest
  | itself plain => exact unescape_plain plain rest

theorem isSimpleEscape_of_read (read : simpleEscape? e = some b) :
    isSimpleEscape e ∧ e ≠ byte 'u' := by
  constructor
  · unfold simpleEscape? at read
    unfold isSimpleEscape
    split_ifs at read <;> simp_all
  · rintro rfl
    cases read

theorem feed_plain {bs : Bytes} (plain : ∀ b ∈ bs, b ≠ byte '"' ∧ b ≠ byte '\\' ∧ ¬b < 0x20) :
    feed ⟨.string isKey, stack⟩ bs = some ⟨.string isKey, stack⟩ := by
  induction bs with
  | nil => rfl
  | cons b bs ih =>
    obtain ⟨quote, backslash, printed⟩ := plain b (by simp)
    have rest := ih fun d hd => plain d (List.mem_cons_of_mem b hd)
    simp [feed_cons, step, quote, backslash, printed, rest]

theorem feed_written (hw : Written c w) :
    feed ⟨.string isKey, stack⟩ w = some ⟨.string isKey, stack⟩ := by
  cases hw with
  | simple read ascii =>
    obtain ⟨escape, other⟩ := isSimpleEscape_of_read read
    simp [feed_cons, step, backslash_inside, escape, other]
  | unit read control =>
    unfold codeUnit? at read
    split_ifs at read with hex
    simp only [List.all_cons, List.all_nil, Bool.and_eq_true, and_true] at hex
    simp [feed_cons, step, backslash_inside, hex]
  | itself plain => exact feed_plain plain

def inside (cs : List Char) : Bytes := (cs.flatMap escapeChar).flatMap String.utf8EncodeChar

theorem inside_cons (c : Char) (cs : List Char) :
    inside (c :: cs) = written c ++ inside cs := by
  simp [inside, written]

theorem utf8_quote (s : String) :
    Text.utf8 (quote s) = byte '"' :: (inside s.toList ++ [byte '"']) := by
  rw [quote, Text.utf8_ofList, List.cons_append, List.flatMap_cons, List.flatMap_append]
  rfl

theorem unescape_inside (cs : List Char) :
    unescape (inside cs) = some (cs.flatMap String.utf8EncodeChar) := by
  induction cs with
  | nil => rfl
  | cons c cs ih =>
    rw [inside_cons, unescape_written (written_spec c), ih]
    rfl

theorem feed_inside (cs : List Char) :
    feed ⟨.string isKey, stack⟩ (inside cs) = some ⟨.string isKey, stack⟩ := by
  induction cs with
  | nil => rfl
  | cons c cs ih =>
    rw [inside_cons, feed_append, feed_written (written_spec c)]
    exact ih

theorem feed_quote (s : String) :
    feed ⟨.string isKey, stack⟩ (inside s.toList ++ [byte '"']) =
      some ⟨endOfString isKey, stack⟩ := by
  rw [feed_append, feed_inside]
  rfl

theorem isValue_quote (s : String) : isValue (Text.utf8 (quote s)) := by
  rw [utf8_quote]
  exact isValue_of_begins rfl (feed_quote s) rfl

/-- A text is read back from between its quotes. -/
theorem string?_quote (s : String) : string? (Text.utf8 (quote s)) = some s := by
  rw [utf8_quote]
  simp [string?, unescape_inside, ← Text.utf8_eq, Text.ofUtf8?_utf8]

end EventDispatch.Json
