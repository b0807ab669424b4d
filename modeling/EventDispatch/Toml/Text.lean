import EventDispatch.Text.Digits

namespace EventDispatch.Toml

def skipSpace (cs : List Char) : List Char := cs.dropWhile fun c => c == ' ' || c == '\t'

/-- A control character that may not be written as it is. -/
def isControl (c : Char) : Bool := (c.toNat < 0x20 && c != '\t') || c.toNat == 0x7F

def newline? : List Char → Option (List Char)
  | '\n' :: rest => some rest
  | '\r' :: '\n' :: rest => some rest
  | _ => none

def scalar? (width : Nat) (cs : List Char) : Option (Char × List Char) :=
  let ds := cs.take width
  let code := Text.numberIn 16 ds
  if ds.length = width ∧ ds.all Text.isHexDigit ∧ code.isValidChar then
    some (Char.ofNat code, cs.drop width)
  else none

def escape? : List Char → Option (Char × List Char)
  | 'b' :: rest => some ('\x08', rest)
  | 't' :: rest => some ('\t', rest)
  | 'n' :: rest => some ('\n', rest)
  | 'f' :: rest => some ('\x0c', rest)
  | 'r' :: rest => some ('\r', rest)
  | '"' :: rest => some ('"', rest)
  | '\\' :: rest => some ('\\', rest)
  | 'u' :: rest => scalar? 4 rest
  | 'U' :: rest => scalar? 8 rest
  | _ => none

/-- Skips blanks and line ends, as after a backslash at the end of a line. -/
def skipLines : List Char → List Char
  | ' ' :: rest => skipLines rest
  | '\t' :: rest => skipLines rest
  | '\n' :: rest => skipLines rest
  | '\r' :: '\n' :: rest => skipLines rest
  | cs => cs

/-- A backslash with nothing but blanks before the end of its line. -/
def isContinuation (cs : List Char) : Bool := (newline? (skipSpace cs)).isSome

/-- The inside of a basic string, with its closing quote; `fuel` is the length of the text. -/
def basic : Nat → List Char → Option (List Char × List Char)
  | 0, _ => none
  | _, [] => none
  | fuel + 1, c :: rest =>
    if c = '"' then some ([], rest)
    else if c = '\\' then do
      let (e, rest) ← escape? rest
      let (s, rest) ← basic fuel rest
      some (e :: s, rest)
    else if isControl c then none
    else (basic fuel rest).map fun r => (c :: r.1, r.2)

def literal : List Char → Option (List Char × List Char)
  | [] => none
  | c :: rest =>
    if c = '\'' then some ([], rest)
    else if isControl c then none
    else (literal rest).map fun r => (c :: r.1, r.2)

/-- Closing quotes of a string of several lines: up to two more may stand before the three. -/
def closing? (quote : Char) (cs : List Char) : Option (List Char × List Char) :=
  let run := cs.takeWhile (· == quote)
  if run.length < 3 then none
  else
    let extra := min 2 (run.length - 3)
    some (List.replicate extra quote, cs.drop (extra + 3))

def basicLines : Nat → List Char → Option (List Char × List Char)
  | 0, _ => none
  | _, [] => none
  | fuel + 1, c :: rest =>
    match closing? '"' (c :: rest) with
    | some r => some r
    | none =>
      if c = '\\' then
        if isContinuation rest then basicLines fuel (skipLines rest)
        else do
          let (e, rest) ← escape? rest
          let (s, rest) ← basicLines fuel rest
          some (e :: s, rest)
      else match newline? (c :: rest) with
        | some rest => (basicLines fuel rest).map fun r => ('\n' :: r.1, r.2)
        | none =>
          if isControl c then none
          else (basicLines fuel rest).map fun r => (c :: r.1, r.2)

def literalLines : Nat → List Char → Option (List Char × List Char)
  | 0, _ => none
  | _, [] => none
  | fuel + 1, c :: rest =>
    match closing? '\'' (c :: rest) with
    | some r => some r
    | none =>
      match newline? (c :: rest) with
      | some rest => (literalLines fuel rest).map fun r => ('\n' :: r.1, r.2)
      | none =>
        if isControl c then none
        else (literalLines fuel rest).map fun r => (c :: r.1, r.2)

/-- A line end right after the opening quotes does not belong to the string. -/
def skipFirstLine (cs : List Char) : List Char := (newline? cs).getD cs

def string? (cs : List Char) : Option (List Char × List Char) :=
  match cs with
  | '"' :: '"' :: '"' :: rest => basicLines cs.length (skipFirstLine rest)
  | '\'' :: '\'' :: '\'' :: rest => literalLines cs.length (skipFirstLine rest)
  | '"' :: rest => basic cs.length rest
  | '\'' :: rest => literal rest
  | _ => none

def isBare (c : Char) : Bool :=
  c.isAlpha || c.isDigit || c == '_' || c == '-'

def simpleKey? (cs : List Char) : Option (String × List Char) :=
  match cs with
  | '"' :: rest => (basic cs.length rest).map fun r => (String.ofList r.1, r.2)
  | '\'' :: rest => (literal rest).map fun r => (String.ofList r.1, r.2)
  | cs =>
    let key := cs.takeWhile isBare
    if key.isEmpty then none else some (String.ofList key, cs.drop key.length)

/-- How deep values may nest, and how many keys dots may join. -/
def nestingLimit : Nat := 79

/-- At most so many keys joined by dots, and the text after the blanks that follow. -/
def keyPath? : Nat → List Char → Option (List String × List Char)
  | 0, _ => none
  | room + 1, cs => do
    let (key, rest) ← simpleKey? (skipSpace cs)
    match skipSpace rest with
    | '.' :: rest => (keyPath? room rest).map fun r => (key :: r.1, r.2)
    | rest => some ([key], rest)

end EventDispatch.Toml
