namespace EventDispatch.Text

/-- The characters with Unicode's property White_Space. -/
def isBlank (c : Char) : Bool :=
  let n := c.toNat
  (9 ≤ n && n ≤ 13) || n == 0x20 || n == 0x85 || n == 0xA0 || n == 0x1680 ||
    (0x2000 ≤ n && n ≤ 0x200A) || n == 0x2028 || n == 0x2029 || n == 0x202F || n == 0x205F ||
    n == 0x3000

def dropBlanks (cs : List Char) : List Char := cs.dropWhile isBlank

def trimChars (cs : List Char) : List Char :=
  (dropBlanks (dropBlanks cs).reverse).reverse

def trim (s : String) : String := String.ofList (trimChars s.toList)

/-- An empty text counts as none. -/
def filled (s : Option String) : Option String := s.filter (· ≠ "")

theorem filled_ne_empty (s : Option String) : filled s ≠ some "" := by
  intro empty
  obtain ⟨-, ne⟩ := Option.filter_eq_some_iff.1 empty
  simp at ne

theorem filled_eq_self {s : Option String} (ne : s ≠ some "") : filled s = s := by
  cases s with
  | none => rfl
  | some text => exact Option.filter_some_pos (by simpa using ne)

end EventDispatch.Text
