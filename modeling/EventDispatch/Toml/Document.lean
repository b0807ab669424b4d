import EventDispatch.Toml.Scalar

namespace EventDispatch.Toml

namespace Entries

/-- Works on the table at the end of a path of keys, making the tables that are missing. -/
def within (f : Entries → Option Entries) : List String → Entries → Option Entries
  | [], es => f es
  | key :: path, es =>
    match es.find? key with
    | none => (within f path []).map fun inner => es.put key (.table .implied inner)
    | some (.table .inline _) => none
    | some (.table origin inner) =>
      (within f path inner).map fun inner => es.put key (.table origin inner)
    | some (.tables items) =>
      (within f path (items.getLastD [])).map fun inner =>
        es.put key (.tables (items.dropLast ++ [inner]))
    | some _ => none

/-- Gives a value to a key with dots. The tables on its way come from such keys themselves. -/
def assign (value : Value) : List String → Entries → Option Entries
  | [], _ => none
  | [key], es => if (es.find? key).isSome then none else some (es.put key value)
  | key :: path, es =>
    match es.find? key with
    | none => (assign value path []).map fun inner => es.put key (.table .dotted inner)
    | some (.table .dotted inner) =>
      (assign value path inner).map fun inner => es.put key (.table .dotted inner)
    | some (.table .implied inner) =>
      if path.length = 1 then none
      else (assign value path inner).map fun inner => es.put key (.table .implied inner)
    | some (.tables items) =>
      if path.length = 1 then none
      else (assign value path (items.getLastD [])).map fun inner =>
        es.put key (.tables (items.dropLast ++ [inner]))
    | some _ => none

def openTable (key : String) (es : Entries) : Option Entries :=
  match es.find? key with
  | none => some (es.put key (.table .header []))
  | some (.table .implied inner) => some (es.put key (.table .header inner))
  | some _ => none

def openNext (key : String) (es : Entries) : Option Entries :=
  match es.find? key with
  | none => some (es.put key (.tables [[]]))
  | some (.tables items) => some (es.put key (.tables (items ++ [[]])))
  | some _ => none

end Entries

/-- The text after a comment, which ends before the end of its line. -/
def comment? (cs : List Char) : Option (List Char) :=
  let body := cs.takeWhile fun c => c != '\n' && c != '\r'
  if body.any isControl then none else some (cs.drop body.length)

/-- Skips blanks, line ends and comments, as between the items of an array. -/
def skipTrivia : Nat → List Char → Option (List Char)
  | 0, _ => none
  | fuel + 1, cs =>
    match skipSpace cs with
    | '#' :: rest => (comment? rest).bind (skipTrivia fuel)
    | rest =>
      match newline? rest with
      | some rest => skipTrivia fuel rest
      | none => some rest

mutual

/-- A value, inside which there is room for as many levels of others. -/
def value? : Nat → Nat → List Char → Option (Value × List Char)
  | 0, _, _ => none
  | fuel + 1, room, cs =>
    match cs with
    | '[' :: rest =>
      match room with
      | 0 => none
      | room + 1 => (items? fuel room rest).map fun r => (.array r.1, r.2)
    | '{' :: rest =>
      match room, skipSpace rest with
      | 0, _ => none
      | _ + 1, '}' :: rest => some (.table .inline [], rest)
      | room + 1, rest => (members? fuel room [] rest).map fun r => (.table .inline r.1, r.2)
    | '"' :: _ => (string? cs).map fun r => (.text (String.ofList r.1), r.2)
    | '\'' :: _ => (string? cs).map fun r => (.text (String.ofList r.1), r.2)
    | cs =>
      let text := scalarText cs
      (scalar text).map fun v => (v, cs.drop text.length)

def items? : Nat → Nat → List Char → Option (List Value × List Char)
  | 0, _, _ => none
  | fuel + 1, room, cs => do
    match ← skipTrivia cs.length.succ cs with
    | ']' :: rest => some ([], rest)
    | cs =>
      let (v, rest) ← value? fuel room cs
      match ← skipTrivia rest.length.succ rest with
      | ',' :: rest => (items? fuel room rest).map fun r => (v :: r.1, r.2)
      | ']' :: rest => some ([v], rest)
      | _ => none

def members? : Nat → Nat → Entries → List Char → Option (Entries × List Char)
  | 0, _, _, _ => none
  | fuel + 1, room, es, cs => do
    let (path, rest) ← keyPath? nestingLimit cs
    match rest with
    | '=' :: rest =>
      let (v, rest) ← value? fuel room (skipSpace rest)
      let es ← es.assign v path
      match skipSpace rest with
      | ',' :: rest => members? fuel room es rest
      | '}' :: rest => some (es, rest)
      | _ => none
    | _ => none

end

/-- What may stand between the end of an entry and the next line. -/
def endOfLine? (cs : List Char) : Option (List Char) := do
  let rest ← match skipSpace cs with
    | '#' :: rest => comment? rest
    | rest => some rest
  match rest with
  | [] => some []
  | rest => newline? rest

def onLast (f : String → Entries → Option Entries) (path : List String) (root : Entries) :
    Option Entries := do
  root.within (f (← path.getLast?)) path.dropLast

/-- The rest of a document, while the table at `current` is open. -/
def linesFrom : Nat → List String → Entries → List Char → Option Entries
  | 0, _, _, _ => none
  | fuel + 1, current, root, cs =>
    match skipSpace cs with
    | [] => some root
    -- One more table of an array.
    | '[' :: '[' :: rest => do
      let (path, rest) ← keyPath? nestingLimit rest
      match rest with
      | ']' :: ']' :: rest =>
        linesFrom fuel path (← onLast Entries.openNext path root) (← endOfLine? rest)
      | _ => none
    -- A table of its own.
    | '[' :: rest => do
      let (path, rest) ← keyPath? nestingLimit rest
      match rest with
      | ']' :: rest =>
        linesFrom fuel path (← onLast Entries.openTable path root) (← endOfLine? rest)
      | _ => none
    | c :: rest =>
      if c = '#' ∨ (newline? (c :: rest)).isSome then
        (endOfLine? (c :: rest)).bind (linesFrom fuel current root)
      else do
        let (path, rest) ← keyPath? nestingLimit (c :: rest)
        match rest with
        | '=' :: rest =>
          let (v, rest) ← value? rest.length.succ nestingLimit (skipSpace rest)
          linesFrom fuel current (← root.within (Entries.assign v path) current)
            (← endOfLine? rest)
        | _ => none

def byteOrderMark : Char := Char.ofNat 0xFEFF

/-- The entries of the root table. A key is given once, and a table is opened by a header at most once
and only where nothing else made it. -/
def document? (text : String) : Option Entries :=
  let cs := text.toList
  let cs := if cs.head? = some byteOrderMark then cs.tail else cs
  linesFrom cs.length.succ [] [] cs

end EventDispatch.Toml
