import EventDispatch.Json.Lexical

namespace EventDispatch.Json

/-- Lines count from one; a column is the number of bytes before it in its line. -/
structure Position where
  line : Nat
  column : Nat
deriving DecidableEq

namespace Position

def start : Position := ⟨1, 0⟩

def after (p : Position) (b : UInt8) : Position :=
  if b == byte '\n' then ⟨p.line + 1, 0⟩ else ⟨p.line, p.column + 1⟩

end Position

/-- The place where a scan that goes on from `p` has to stop: at the first byte that cannot stand there,
or else at the end. -/
def Scanner.stop (s : Scanner) (p : Position) : Bytes → Position
  | [] => p
  | b :: rest =>
    match s.step b with
    | some next => next.stop (p.after b) rest
    | none => p

inductive Error where
  | malformed (p : Position)
  | unencodable (reason : String)
deriving DecidableEq

namespace Error

/-- The error of a document that does not give what it should. -/
def ofDocument (text : Bytes) : Error := .malformed (Scanner.stop ⟨.value, []⟩ .start text)

def message : Error → String
  | .malformed p =>
    "malformed JSON at line " ++ Nat.repr p.line ++ " column " ++ Nat.repr p.column
  | .unencodable reason => reason

end Error
end EventDispatch.Json
