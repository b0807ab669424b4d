import EventDispatch.Proofs.Text.Digits
import Mathlib.Data.List.TakeWhile

namespace EventDispatch.Text

variable {cs core before : List Char}

def AllBlank (cs : List Char) : Prop := ∀ c ∈ cs, isBlank c

def Surrounded (core cs : List Char) : Prop :=
  ∃ before after, AllBlank before ∧ AllBlank after ∧ cs = before ++ core ++ after

theorem dropBlanks_blanks (blanks : AllBlank before) (rest : List Char) :
    dropBlanks (before ++ rest) = dropBlanks rest :=
  List.dropWhile_append_of_pos blanks

theorem dropBlanks_self (begins : ∀ c ∈ cs.head?, isBlank c = false) : dropBlanks cs = cs := by
  cases cs with
  | nil => rfl
  | cons c rest => exact dropBlanks_cons (begins c rfl) rest

theorem exists_dropBlanks (cs : List Char) : ∃ before, AllBlank before ∧ cs = before ++ dropBlanks cs :=
  ⟨cs.takeWhile isBlank, fun _ hc => List.mem_takeWhile_imp hc, List.takeWhile_append_dropWhile.symm⟩

/-- Only blanks are trimmed. -/
theorem surrounded_trimChars (cs : List Char) : Surrounded (trimChars cs) cs := by
  obtain ⟨before, blanks, text⟩ := exists_dropBlanks cs
  obtain ⟨after, blanks', text'⟩ := exists_dropBlanks (dropBlanks cs).reverse
  have kept : dropBlanks cs = trimChars cs ++ after.reverse := by
    rw [trimChars, ← List.reverse_append, ← text', List.reverse_reverse]
  refine ⟨before, after.reverse, blanks, fun c hc => blanks' c (List.mem_reverse.1 hc), ?_⟩
  rw [List.append_assoc, ← kept, ← text]

/-- All blanks at the ends are trimmed. -/
theorem trimChars_surrounded (begins : ∀ c ∈ core.head?, isBlank c = false)
    (ends : ∀ c ∈ core.getLast?, isBlank c = false) (surrounded : Surrounded core cs) :
    trimChars cs = core := by
  obtain ⟨before, after, blanks, blanks', rfl⟩ := surrounded
  have tail : AllBlank after.reverse := fun c hc => blanks' c (List.mem_reverse.1 hc)
  rw [trimChars, List.append_assoc, dropBlanks_blanks blanks]
  cases core with
  | nil =>
    have none : dropBlanks after = [] := List.dropWhile_eq_nil_iff.2 blanks'
    rw [List.nil_append, none]
    rfl
  | cons c rest =>
    rw [List.cons_append, dropBlanks_cons (begins c rfl), ← List.cons_append, List.reverse_append,
      dropBlanks_blanks tail, dropBlanks_self (by rwa [List.head?_reverse]), List.reverse_reverse]

theorem trimChars_eq_iff (printed : ∀ c ∈ core, isBlank c = false) :
    trimChars cs = core ↔ Surrounded core cs := by
  constructor
  · rintro rfl
    exact surrounded_trimChars cs
  · exact trimChars_surrounded (fun c hc => printed c (List.mem_of_head? hc))
      fun c hc => printed c (List.mem_of_getLast? hc)

end EventDispatch.Text
