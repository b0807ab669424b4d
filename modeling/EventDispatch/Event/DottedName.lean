import EventDispatch.Text.Casing

namespace EventDispatch

def dottedChar (c : Char) : List Char :=
  if Text.isUpper c then '.' :: Text.lower c else [c]

def dottedChars : List Char → List Char
  | [] => []
  | c :: rest => (if Text.isUpper c then Text.lower c else [c]) ++ rest.flatMap dottedChar

/-- The default name of an event: each upper-case letter of its type's name begins a segment. -/
def dottedName (ident : String) : String := String.ofList (dottedChars ident.toList)

end EventDispatch
