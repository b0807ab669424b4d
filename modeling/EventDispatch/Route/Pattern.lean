import EventDispatch.Name
import EventDispatch.Text.Blank

namespace EventDispatch

/-- A configured text without blanks around it. What it matches is decided by its normalized form. -/
structure Pattern where
  source : String
  source_ne : source ≠ ""
deriving DecidableEq

namespace Pattern

/-- A blank text is no pattern. -/
def compile (text : String) : Option Pattern :=
  if h : Text.trim text ≠ "" then some ⟨Text.trim text, h⟩ else none

def chars (p : Pattern) : List Char := Name.normalizeChars p.source.toList

def normalized (p : Pattern) : String := Name.normalize p.source

inductive Segment where
  | literal (text : List Char)
  | any
deriving DecidableEq

inductive Shape where
  | exact
  | universal
  /-- A star as the last segment and nowhere else: every name that continues the stem. -/
  | below (stem : List Char)
  | segments (parts : List Segment)
deriving DecidableEq

def segment (s : List Char) : Segment := if s = ['*'] then .any else .literal s

def shapeOf (cs : List Char) : Shape :=
  if cs = ['*'] then .universal
  else if '*' ∉ cs then .exact
  else if cs.count '*' = 1 ∧ [':', '*'] <:+ cs then .below cs.dropLast
  else .segments ((Name.segments cs).map segment)

def shape (p : Pattern) : Shape := shapeOf p.chars

def isExact (p : Pattern) : Bool := p.shape == .exact

def isUniversal (p : Pattern) : Bool := p.shape == .universal

def Segment.accepts : Segment → List Char → Bool
  | .literal text, part => text == part
  | .any, part => !part.isEmpty

def acceptsAll : List Segment → List (List Char) → Bool
  | [], [] => true
  | s :: ss, p :: ps => s.accepts p && acceptsAll ss ps
  | _, _ => false

/-- Whether a name in normalized form is matched. -/
def accepts (p : Pattern) (name : String) : Bool :=
  match p.shape with
  | .exact => p.chars == name.toList
  | .universal => true
  | .below stem => stem.length < name.toList.length && stem.isPrefixOf name.toList
  | .segments parts => acceptsAll parts (Name.segments name.toList)

def literalPrefix (p : Pattern) : String := String.ofList (p.chars.takeWhile (· ≠ '*'))

/-- In bytes, as all lengths that decide precedence. -/
def literalPrefixLength (p : Pattern) : Nat := p.literalPrefix.utf8ByteSize

def tier (p : Pattern) : Nat :=
  match p.shape with
  | .exact => 0
  | .below _ => 1
  | .segments _ => 1
  | .universal => 2

/-- Exact patterns come first and the lone star last. Between them the longer literal text before
the first star wins, then the longer pattern, then the order of the texts. -/
def cmp (p q : Pattern) : Ordering :=
  (compare p.tier q.tier).then <|
    (compare q.literalPrefixLength p.literalPrefixLength).then <|
      (compare q.normalized.utf8ByteSize p.normalized.utf8ByteSize).then <|
        (compare p.normalized q.normalized).then <| compare p.source q.source

def precedes (p q : Pattern) : Bool := (p.cmp q).isLE

def sort (ps : List Pattern) : List Pattern := ps.mergeSort precedes

end Pattern
end EventDispatch
