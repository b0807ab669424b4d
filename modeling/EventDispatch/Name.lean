namespace EventDispatch.Name

def separator (c : Char) : Char := if c = '.' then ':' else c

def normalizeChars (cs : List Char) : List Char := cs.map separator

/-- Both `.` and `:` separate segments; names are matched in the form with `:`. -/
def normalize (name : String) : String := String.ofList (normalizeChars name.toList)

/-- The pieces between colons; an empty text is one empty piece. -/
def segments : List Char → List (List Char)
  | [] => [[]]
  | c :: rest =>
    if c = ':' then [] :: segments rest
    else match segments rest with
      | [] => [[c]]
      | s :: more => (c :: s) :: more

end EventDispatch.Name
