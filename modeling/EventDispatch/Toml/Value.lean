namespace EventDispatch.Toml

inductive Origin where
  /-- Named on the way to a table under a header. -/
  | implied
  | header
  /-- Made by a key with dots. -/
  | dotted
  /-- Written between braces. -/
  | inline
deriving DecidableEq

/-- Of floats and dates only the kind is kept. A table remembers how it came to be, since that decides
what may still be added to it. -/
inductive Value where
  | text (s : String)
  | integer (n : Int)
  | boolean (b : Bool)
  | float
  | date
  | array (items : List Value)
  | table (origin : Origin) (entries : List (String × Value))
  /-- Tables under one repeated header. -/
  | tables (items : List (List (String × Value)))

abbrev Entries := List (String × Value)

namespace Value

def items? : Value → Option (List Value)
  | .array items => some items
  | .tables items => some (items.map (.table .header))
  | _ => none

def entries? : Value → Option Entries
  | .table _ entries => some entries
  | _ => none

/-- A table or an array with nothing in it. -/
def isEmpty : Value → Bool
  | .array items => items.isEmpty
  | .table _ entries => entries.isEmpty
  | .tables items => items.isEmpty
  | _ => false

end Value

namespace Entries

def find? (key : String) (es : Entries) : Option Value := (List.find? (·.1 == key) es).map (·.2)

/-- Replaces the value of a key, or adds the key at the end. -/
def put (key : String) (value : Value) : Entries → Entries
  | [] => [(key, value)]
  | (k, v) :: rest => if k = key then (k, value) :: rest else (k, v) :: put key value rest

end Entries
end EventDispatch.Toml
