import EventDispatch.Json.Text

namespace EventDispatch.Json

def expect (c : Char) (bs : Bytes) : Option Bytes :=
  match skipBlanks bs with
  | b :: rest => if b == byte c then some rest else none
  | [] => none

/-- Members up to the closing brace; `fuel` bounds their number. -/
def membersFrom : Nat → Bytes → Option (List (String × Bytes))
  | 0, _ => none
  | fuel + 1, bs => do
    let (key, rest) ← scan (skipBlanks bs)
    let name ← string? key
    let (value, rest) ← scan (skipBlanks (← expect ':' rest))
    match skipBlanks rest with
    | [] => none
    | b :: rest =>
      if b == byte ',' then (membersFrom fuel rest).map ((name, value) :: ·)
      else if b == byte '}' then some [(name, value)]
      else none

def members? (value : Bytes) : Option (List (String × Bytes)) := do
  let rest ← expect '{' value
  if (expect '}' rest).isSome then some [] else membersFrom value.length rest

def itemsFrom : Nat → Bytes → Option (List Bytes)
  | 0, _ => none
  | fuel + 1, bs => do
    let (value, rest) ← scan (skipBlanks bs)
    match skipBlanks rest with
    | [] => none
    | b :: rest =>
      if b == byte ',' then (itemsFrom fuel rest).map (value :: ·)
      else if b == byte ']' then some [value]
      else none

def items? (value : Bytes) : Option (List Bytes) := do
  let rest ← expect '[' value
  if (expect ']' rest).isSome then some [] else itemsFrom value.length rest

def isNull (value : Bytes) : Bool := value == Text.utf8 "null"

def bool? (value : Bytes) : Option Bool :=
  if value == Text.utf8 "true" then some true
  else if value == Text.utf8 "false" then some false
  else none

def digits? (ds : Bytes) : Option Nat :=
  if !ds.isEmpty && ds.all isDigit then
    some (ds.foldl (fun n b => n * 10 + (b - byte '0').toNat) 0)
  else none

/-- An integer that fits 64 bits without a sign. -/
def natural? (value : Bytes) : Option Nat :=
  (digits? value).filter (· < UInt64.size)

/-- An integer that fits 64 bits with a sign; the written `-0` is not an integer. -/
def integer? (value : Bytes) : Option Int :=
  match value with
  | [] => none
  | b :: rest =>
    if b == byte '-' then
      ((digits? rest).filter fun n => 0 < n && n ≤ Nat.pow 2 63).map fun n => -(n : Int)
    else ((digits? value).filter (· < Nat.pow 2 63)).map fun n => (n : Int)

def optional? {α : Type} (read : Bytes → Option α) (value : Bytes) : Option (Option α) :=
  if isNull value then some none else (read value).map some

def listOf? {α : Type} (read : Bytes → Option α) (value : Bytes) : Option (List α) :=
  (items? value).bind fun vs => vs.mapM read

/-- A record is given as an object, whose members may stand in any order, or as an array of its fields.
The value of a field is its text, as it was written. -/
inductive Record where
  | named (members : List (String × Bytes))
  | positional (fields : List Bytes)

namespace Record

/-- The value of a record with `size` fields. -/
def ofValue? (size : Nat) (value : Bytes) : Option Record :=
  match members? value with
  | some ms => some (.named ms)
  | none => ((items? value).filter (·.length ≤ size)).map .positional

def isPositional : Record → Bool
  | .named _ => false
  | .positional _ => true

/-- The text of one field, if it is given; fails when it is given twice. -/
def field? (r : Record) (index : Nat) (names : List String) : Option (Option Bytes) :=
  match r with
  | .positional fields => some fields[index]?
  | .named ms =>
    match ms.filter fun m => names.contains m.1 with
    | [] => some none
    | [m] => some (some m.2)
    | _ => none

def required? {α : Type} (r : Record) (index : Nat) (names : List String)
    (read : Bytes → Option α) : Option α := do
  read (← (← r.field? index names))

/-- A field with a value for when it is not given. -/
def withDefault? {α : Type} (r : Record) (index : Nat) (names : List String)
    (read : Bytes → Option α) (default : α) : Option α := do
  match ← r.field? index names with
  | some value => read value
  | none => some default

def onlyKnown (r : Record) (names : List String) : Bool :=
  match r with
  | .positional _ => true
  | .named ms => ms.all fun m => names.contains m.1

end Record
end EventDispatch.Json
