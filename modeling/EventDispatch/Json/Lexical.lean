import EventDispatch.Text.Utf8

namespace EventDispatch.Json

def byte (c : Char) : UInt8 := c.toNat.toUInt8

def isBlank (b : UInt8) : Bool :=
  b == byte ' ' || b == byte '\n' || b == byte '\t' || b == byte '\r'

def skipBlanks (bs : Bytes) : Bytes := bs.dropWhile isBlank

def isDigit (b : UInt8) : Bool := byte '0' ≤ b && b ≤ byte '9'

def isHexDigit (b : UInt8) : Bool :=
  isDigit b || (byte 'a' ≤ b && b ≤ byte 'f') || (byte 'A' ≤ b && b ≤ byte 'F')

/-- The letters that may follow a backslash, `u` apart. -/
def isSimpleEscape (b : UInt8) : Bool :=
  b == byte '"' || b == byte '\\' || b == byte '/' || b == byte 'b' || b == byte 'f' ||
    b == byte 'n' || b == byte 'r' || b == byte 't'

inductive Bracket where
  | array
  | object
deriving DecidableEq

/-- Where the scanner stands. A string knows whether it is a key. -/
inductive Place where
  | value
  | valueOrEnd
  | key
  | keyOrEnd
  | colon
  | after
  | string (isKey : Bool)
  | escape (isKey : Bool)
  | hex (isKey : Bool) (left : Nat)
  | word (rest : Bytes)
  | minus
  | zero
  | integer
  | point
  | fraction
  | exponent
  | exponentSign
  | exponentDigits
deriving DecidableEq

/-- A scanner walks the bytes of one value with the brackets that are open on a stack, so no depth is
too deep for it. It looks into strings no further than their escapes. -/
structure Scanner where
  place : Place
  stack : List Bracket
deriving DecidableEq

namespace Scanner

def beginValue (stack : List Bracket) (b : UInt8) : Option Scanner :=
  if b == byte '"' then some ⟨.string false, stack⟩
  else if b == byte '{' then some ⟨.keyOrEnd, .object :: stack⟩
  else if b == byte '[' then some ⟨.valueOrEnd, .array :: stack⟩
  else if b == byte '-' then some ⟨.minus, stack⟩
  else if b == byte '0' then some ⟨.zero, stack⟩
  else if isDigit b then some ⟨.integer, stack⟩
  else if b == byte 't' then some ⟨.word (Text.utf8 "rue"), stack⟩
  else if b == byte 'f' then some ⟨.word (Text.utf8 "alse"), stack⟩
  else if b == byte 'n' then some ⟨.word (Text.utf8 "ull"), stack⟩
  else none

/-- A value is complete: what may come next depends on the innermost open bracket. -/
def afterValue (stack : List Bracket) (b : UInt8) : Option Scanner :=
  match stack with
  | [] => none
  | .array :: outer =>
    if isBlank b then some ⟨.after, stack⟩
    else if b == byte ',' then some ⟨.value, stack⟩
    else if b == byte ']' then some ⟨.after, outer⟩
    else none
  | .object :: outer =>
    if isBlank b then some ⟨.after, stack⟩
    else if b == byte ',' then some ⟨.key, stack⟩
    else if b == byte '}' then some ⟨.after, outer⟩
    else none

def endOfString (isKey : Bool) : Place := if isKey then .colon else .after

def step (s : Scanner) (b : UInt8) : Option Scanner :=
  let goTo (p : Place) : Option Scanner := some ⟨p, s.stack⟩
  let exponentOr (other : Option Scanner) : Option Scanner :=
    if b == byte 'e' || b == byte 'E' then goTo .exponent else other
  match s.place with
  | .value => if isBlank b then some s else beginValue s.stack b
  | .valueOrEnd =>
    if isBlank b then some s
    else if b == byte ']' then some ⟨.after, s.stack.tail⟩
    else beginValue s.stack b
  | .key =>
    if isBlank b then some s
    else if b == byte '"' then goTo (.string true)
    else none
  | .keyOrEnd =>
    if isBlank b then some s
    else if b == byte '"' then goTo (.string true)
    else if b == byte '}' then some ⟨.after, s.stack.tail⟩
    else none
  | .colon =>
    if isBlank b then some s
    else if b == byte ':' then goTo .value
    else none
  | .after => afterValue s.stack b
  | .string isKey =>
    if b == byte '"' then goTo (endOfString isKey)
    else if b == byte '\\' then goTo (.escape isKey)
    else if b < 0x20 then none
    else some s
  | .escape isKey =>
    if b == byte 'u' then goTo (.hex isKey 3)
    else if isSimpleEscape b then goTo (.string isKey)
    else none
  -- So many digits are left after this one.
  | .hex isKey left =>
    if isHexDigit b then goTo (if left = 0 then .string isKey else .hex isKey (left - 1))
    else none
  | .word [] => none
  | .word (c :: rest) =>
    if b == c then goTo (if rest.isEmpty then .after else .word rest) else none
  | .minus =>
    if b == byte '0' then goTo .zero
    else if isDigit b then goTo .integer
    else none
  | .zero => if b == byte '.' then goTo .point else exponentOr (afterValue s.stack b)
  | .integer =>
    if isDigit b then some s
    else if b == byte '.' then goTo .point
    else exponentOr (afterValue s.stack b)
  | .point => if isDigit b then goTo .fraction else none
  | .fraction => if isDigit b then some s else exponentOr (afterValue s.stack b)
  | .exponent =>
    if b == byte '+' || b == byte '-' then goTo .exponentSign
    else if isDigit b then goTo .exponentDigits
    else none
  | .exponentSign => if isDigit b then goTo .exponentDigits else none
  | .exponentDigits => if isDigit b then some s else afterValue s.stack b

/-- Nothing is open, and what was read is a whole value; a number might still go on. -/
def isComplete (s : Scanner) : Bool :=
  s.stack.isEmpty &&
    match s.place with
    | .after => true
    | .zero => true
    | .integer => true
    | .fraction => true
    | .exponentDigits => true
    | _ => false

/-- The rest of the value, and what follows it. -/
def run (s : Scanner) : Bytes → Option (Bytes × Bytes)
  | [] => if s.isComplete then some ([], []) else none
  | b :: rest =>
    match s.step b with
    | some next => (run next rest).map fun r => (b :: r.1, r.2)
    | none => if s.isComplete then some ([], b :: rest) else none

end Scanner

/-- The value that the text begins with, and what follows it. -/
def scan : Bytes → Option (Bytes × Bytes)
  | [] => none
  | b :: rest =>
    (Scanner.beginValue [] b).bind fun s => (s.run rest).map fun r => (b :: r.1, r.2)

/-- The one value of a whole text, without the blanks around it. -/
def document (text : Bytes) : Option Bytes :=
  match scan (skipBlanks text) with
  | some (value, rest) => if (skipBlanks rest).isEmpty then some value else none
  | none => none

def isValue (text : Bytes) : Bool := scan text == some (text, [])

theorem Scanner.run_append {s : Scanner} {bs value rest : Bytes}
    (h : s.run bs = some (value, rest)) : value ++ rest = bs := by
  induction bs generalizing s value with
  | nil =>
    unfold run at h
    split at h <;> simp_all
  | cons b bs ih =>
    unfold run at h
    split at h
    · obtain ⟨r, hr, e⟩ := Option.map_eq_some_iff.1 h
      cases e
      simpa using ih hr
    · split at h <;> simp_all

theorem scan_append {bs value rest : Bytes} (h : scan bs = some (value, rest)) :
    value ++ rest = bs := by
  match bs with
  | [] => simp [scan] at h
  | b :: bs =>
    obtain ⟨s, _, hs⟩ := Option.bind_eq_some_iff.1 h
    obtain ⟨r, hr, e⟩ := Option.map_eq_some_iff.1 hs
    cases e
    simpa using Scanner.run_append hr

end EventDispatch.Json
