import EventDispatch.Json.Lexical

namespace EventDispatch.Text

variable {s t : String} {c : Char} {bs : Bytes}

theorem utf8_ofList (cs : List Char) :
    utf8 (String.ofList cs) = cs.flatMap String.utf8EncodeChar := by
  simp [utf8, List.utf8Encode]

theorem utf8_eq (s : String) : utf8 s = s.toList.flatMap String.utf8EncodeChar := by
  rw [← utf8_ofList, String.ofList_toList]

@[simp] theorem utf8_append (s t : String) : utf8 (s ++ t) = utf8 s ++ utf8 t := by
  simp [utf8]

theorem ofUtf8?_utf8 (s : String) : ofUtf8? (utf8 s) = some s := by
  have valid : s.toByteArray.IsValidUTF8 := s.isValidUTF8
  simp [ofUtf8?, utf8, String.fromUTF8?, valid, String.fromUTF8]

theorem utf8_of_ofUtf8? (read : ofUtf8? bs = some s) : utf8 s = bs := by
  unfold ofUtf8? String.fromUTF8? at read
  split at read
  · cases read
    rfl
  · cases read

theorem utf8EncodeChar_ascii (ascii : c.toNat < 0x80) : String.utf8EncodeChar c = [Json.byte c] := by
  have small : c.val.toNat ≤ 0x7f := Nat.le_of_lt_succ ascii
  rw [String.utf8EncodeChar, if_pos small]
  rfl

theorem utf8_ascii {cs : List Char} (ascii : ∀ c ∈ cs, c.toNat < 0x80) :
    cs.flatMap String.utf8EncodeChar = cs.map Json.byte := by
  induction cs with
  | nil => rfl
  | cons c cs ih =>
    rw [List.flatMap_cons, utf8EncodeChar_ascii (ascii c (by simp)),
      ih fun d hd => ascii d (List.mem_cons_of_mem c hd)]
    rfl

theorem toNat_byte (ascii : c.toNat < 0x80) : (Json.byte c).toNat = c.toNat := by
  rw [Json.byte, Nat.toUInt8, UInt8.toNat_ofNat']
  exact Nat.mod_eq_of_lt (by omega)

theorem byte_inj {d : Char} (hc : c.toNat < 0x80) (hd : d.toNat < 0x80)
    (same : Json.byte c = Json.byte d) : c = d := by
  have codes : c.toNat = d.toNat := by rw [← toNat_byte hc, ← toNat_byte hd, same]
  rw [← Char.ofNat_toNat c, ← Char.ofNat_toNat d, codes]

theorem le_of_mem_utf8EncodeChar (outside : 0x80 ≤ c.toNat) {b : UInt8}
    (hb : b ∈ String.utf8EncodeChar c) : 0x80 ≤ b := by
  have large : ¬c.val.toNat ≤ 0x7f := Nat.not_le_of_lt outside
  rw [String.utf8EncodeChar, if_neg large] at hb
  rw [UInt8.le_iff_toNat_le]
  split at hb
  · simp only [List.mem_cons, List.not_mem_nil, or_false] at hb
    rcases hb with rfl | rfl <;> simp <;> omega
  split at hb
  · simp only [List.mem_cons, List.not_mem_nil, or_false] at hb
    rcases hb with rfl | rfl | rfl <;> simp <;> omega
  · simp only [List.mem_cons, List.not_mem_nil, or_false] at hb
    rcases hb with rfl | rfl | rfl | rfl <;> simp <;> omega

end EventDispatch.Text
