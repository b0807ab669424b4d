import EventDispatch.Event.Token

namespace EventDispatch

structure AttributeItem where
  key : String
  value : Option String

/-- The texts are as written, and are read as tokens up to the first mistake. -/
structure Attribute where
  path : String
  items : List AttributeItem

inductive AttributeError where
  | unknownKey
  | unknownFieldKey
  | noKey
  | misplacedToken
  | misplacedLiteral
  | missingWord (atEnd : Bool)
  | missingValue
  | missingText (atEnd : Bool)
  | missingComma
  | emptyName
deriving DecidableEq

def expected (what : String) (atEnd : Bool) : String :=
  (if atEnd then "unexpected end of input, " else "") ++ "expected " ++ what

def AttributeError.message : AttributeError → String
  | .unknownKey => "unsupported event attribute, expected `name = \"...\"`"
  | .unknownFieldKey => "unsupported field attribute, expected `timestamp`"
  | .noKey => expected "nested attribute" true
  | .misplacedToken => "unexpected token in nested attribute, expected ident"
  | .misplacedLiteral => "unexpected literal in nested attribute, expected ident"
  | .missingWord atEnd => expected "ident" atEnd
  | .missingValue => expected "`=`" false
  | .missingText atEnd => expected "string literal" atEnd
  | .missingComma => expected "`,`" false
  | .emptyName => "event name must not be empty"

def AttributeItem.tokens (item : AttributeItem) : List Token :=
  Token.ofText item.key ++ item.value.elim [] fun value => [.mark '=' false, .text value]

def splitAtCommas : List Token → List (List Token)
  | [] => [[]]
  | .mark ',' _ :: rest => [] :: splitAtCommas rest
  | t :: rest =>
    match splitAtCommas rest with
    | [] => [[t]]
    | entry :: entries => (t :: entry) :: entries

namespace Attribute

def isEvent (a : Attribute) : Bool := Token.ofText a.path == [.word "event"]

/-- What stands between the commas; a comma inside a key parts entries as well. -/
def entries (a : Attribute) : List (List Token) :=
  splitAtCommas ([.mark ',' false].intercalate (a.items.map AttributeItem.tokens))

/-- The error of what stands where a key should begin. -/
def misplaced : List Token → AttributeError
  | .text _ :: _ => .misplacedLiteral
  | .number :: _ => .misplacedLiteral
  | .literal :: _ => .misplacedLiteral
  | .mark '-' _ :: .number :: _ => .misplacedLiteral
  | _ => .misplacedToken

/-- What follows the further words of a path. -/
def afterPath (isLast : Bool) : List Token → Except AttributeError (List Token)
  | .mark ':' true :: .mark ':' _ :: .word _ :: rest => afterPath isLast rest
  | .mark ':' true :: .mark ':' _ :: rest => .error (.missingWord (isLast && rest.isEmpty))
  | rest => .ok rest

/-- The key that an entry begins with, if it is a single word, and what follows it. -/
def readKey (isLast : Bool) : List Token → Except AttributeError (Option String × List Token)
  | .word _ :: .mark ':' true :: .mark ':' joined :: rest =>
    (afterPath isLast (.mark ':' true :: .mark ':' joined :: rest)).map (none, ·)
  | .word w :: rest => .ok (some w, rest)
  | .mark ':' true :: .mark ':' _ :: .word _ :: rest => (afterPath isLast rest).map (none, ·)
  | .mark ':' true :: .mark ':' _ :: rest =>
    .error (if isLast && rest.isEmpty then .noKey else misplaced rest)
  | rest => .error (misplaced rest)

/-- The text that is given with a key. -/
def readValue (isLast : Bool) : List Token → Except AttributeError String
  | .mark '=' _ :: .text value :: rest =>
    if rest.isEmpty then .ok value else .error .missingComma
  | .mark '=' _ :: rest => .error (.missingText (isLast && rest.isEmpty))
  | _ => .error .missingValue

/-- The last name that the entries give. Nothing need stand after the last comma. -/
def nameIn : List (List Token) → Except AttributeError (Option String)
  | [] => .ok none
  | [[]] => .ok none
  | entry :: rest =>
    match readKey rest.isEmpty entry with
    | .error e => .error e
    | .ok (some "name", more) =>
      match readValue rest.isEmpty more with
      | .error e => .error e
      | .ok value => (nameIn rest).map fun later => later.or (some value)
    | .ok _ => .error .unknownKey

/-- Whether the entries mark a field as the moment of an event. -/
def marksTimestamp : List (List Token) → Except AttributeError Bool
  | [] => .ok false
  | [[]] => .ok false
  | entry :: rest =>
    match readKey rest.isEmpty entry with
    | .error e => .error e
    | .ok (some "timestamp", more) =>
      if more.isEmpty then (marksTimestamp rest).map fun _ => true else .error .missingComma
    | .ok _ => .error .unknownFieldKey

/-- The name that a list of attributes gives; none is read after the first that gives one. -/
def givenName : List Attribute → Except AttributeError (Option String)
  | [] => .ok none
  | a :: rest =>
    if !a.isEvent then givenName rest
    else match nameIn a.entries with
      | .error e => .error e
      | .ok none => givenName rest
      | .ok (some name) => if name = "" then .error .emptyName else .ok (some name)

/-- None is read after the first that marks the field. -/
def isMarked : List Attribute → Except AttributeError Bool
  | [] => .ok false
  | a :: rest =>
    if !a.isEvent then isMarked rest
    else match marksTimestamp a.entries with
      | .error e => .error e
      | .ok true => .ok true
      | .ok false => isMarked rest

end Attribute
end EventDispatch
