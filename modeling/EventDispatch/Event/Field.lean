import EventDispatch.Json.Reader
import EventDispatch.Time.Reader

namespace EventDispatch

inductive FieldKind where
  | text
  | natural
  | optionalText
  | integers
  | timestamp
deriving DecidableEq

structure Field where
  name : String
  kind : FieldKind
deriving DecidableEq

namespace FieldKind

abbrev Value : FieldKind → Type
  | .text => String
  | .natural => UInt64
  | .optionalText => Option String
  | .integers => List Int64
  | .timestamp => Timestamp

def write : (k : FieldKind) → k.Value → String
  | .text, s => Json.quote s
  | .natural, n => Nat.repr n.toNat
  | .optionalText, none => "null"
  | .optionalText, some s => Json.quote s
  | .integers, ns => "[" ++ ",".intercalate (ns.map fun n => Int.repr n.toInt) ++ "]"
  | .timestamp, t => Json.quote t.toText

def read? : (k : FieldKind) → Bytes → Option k.Value
  | .text, v => Json.string? v
  | .natural, v => (Json.natural? v).map UInt64.ofNat
  | .optionalText, v => Json.optional? Json.string? v
  | .integers, v => Json.listOf? (fun v => (Json.integer? v).map Int64.ofInt) v
  | .timestamp, v => (Json.string? v).bind Timestamp.ofText?

/-- The value of a field that an object leaves out. -/
def absent? : (k : FieldKind) → Option k.Value
  | .text => none
  | .natural => none
  | .optionalText => some none
  | .integers => none
  | .timestamp => none

instance : (k : FieldKind) → DecidableEq k.Value
  | .text => inferInstanceAs (DecidableEq String)
  | .natural => inferInstanceAs (DecidableEq UInt64)
  | .optionalText => inferInstanceAs (DecidableEq (Option String))
  | .integers => inferInstanceAs (DecidableEq (List Int64))
  | .timestamp => inferInstanceAs (DecidableEq Timestamp)

end FieldKind

def Values : List Field → Type
  | [] => Unit
  | f :: fs => f.kind.Value × Values fs

namespace Values

instance decEq : (fs : List Field) → DecidableEq (Values fs)
  | [] => inferInstanceAs (DecidableEq Unit)
  | f :: fs =>
    have := decEq fs
    inferInstanceAs (DecidableEq (f.kind.Value × Values fs))

def members : (fs : List Field) → Values fs → List String
  | [], _ => []
  | f :: fs, (v, vs) => (Json.quote f.name ++ ":" ++ f.kind.write v) :: members fs vs

def write (fs : List Field) (vs : Values fs) : String :=
  "\x7b" ++ ",".intercalate (members fs vs) ++ "\x7d"

def readField? (r : Json.Record) (index : Nat) (f : Field) : Option f.kind.Value := do
  match ← r.field? index [f.name] with
  | some value => f.kind.read? value
  | none => if r.isPositional then none else f.kind.absent?

def readFrom? (r : Json.Record) : Nat → (fs : List Field) → Option (Values fs)
  | _, [] => some ()
  | index, f :: fs => do some (← readField? r index f, ← readFrom? r (index + 1) fs)

def read? (fs : List Field) (value : Bytes) : Option (Values fs) :=
  (Json.Record.ofValue? fs.length value).bind fun r => readFrom? r 0 fs

end Values
end EventDispatch
