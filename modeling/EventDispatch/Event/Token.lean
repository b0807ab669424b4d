import EventDispatch.Text.Blank
import EventDispatch.Text.Digits

namespace EventDispatch

/-- Words, literals and single characters. Blanks and comments only part them; a comment that documents
something stands for an attribute. -/
inductive Token where
  /-- An identifier or a keyword. -/
  | word (s : String)
  /-- A text literal, by what it says. -/
  | text (s : String)
  | number
  /-- A literal of any other kind. -/
  | literal
  /-- A character that is a token of its own, and whether another such character follows at once. -/
  | mark (c : Char) (joined : Bool)
deriving DecidableEq

namespace Token

/-- The two direction marks are blank as well. -/
def isGap (c : Char) : Bool := Text.isBlank c || c.toNat == 0x200E || c.toNat == 0x200F

/-- Outside of texts and comments, all other characters beyond ASCII stand in words. -/
def isWordStart (c : Char) : Bool := c.isAlpha || c == '_' || 0x80 ≤ c.toNat

def isWordPart (c : Char) : Bool := isWordStart c || c.isDigit

def isMark (c : Char) : Bool := "~!@#$%^&*-=+|;:,<.>/?\x27".toList.contains c

def beginsWithMark : List Char → Bool
  | '/' :: '/' :: _ => false
  | '/' :: '*' :: _ => false
  | c :: _ => isMark c
  | [] => false

/-- Whether a comment documents something: it begins with one slash or asterisk more than others do,
but not with two, or with an exclamation mark. -/
def isDocumentation : List Char → Bool
  | '/' :: '/' :: '!' :: _ => true
  | '/' :: '/' :: '/' :: rest => rest.head? != some '/'
  | '/' :: '*' :: '!' :: _ => true
  | '/' :: '*' :: '*' :: rest => rest.head? != some '*' && rest.head? != some '/'
  | _ => false

/-- What follows a block comment, inside which so many others are open: block comments nest. -/
def afterBlock : Nat → List Char → List Char
  | _, [] => []
  | n, '/' :: '*' :: rest => afterBlock (n + 1) rest
  | 0, '*' :: '/' :: rest => rest
  | n + 1, '*' :: '/' :: rest => afterBlock n rest
  | n, _ :: rest => afterBlock n rest

def afterComment? : List Char → Option (List Char)
  | '/' :: '/' :: rest => some (rest.dropWhile (· != '\n'))
  | '/' :: '*' :: rest => some (afterBlock 0 rest)
  | _ => none

inductive TextState where
  | plain
  /-- After the end of a line that goes on: the blanks that the next one begins with do not count. -/
  | continued
  | escape
  /-- Inside a number of a character. -/
  | code (n : Nat)

def escaped : Char → Char
  | 'n' => '\n'
  | 'r' => '\r'
  | 't' => '\t'
  | '0' => '\x00'
  | c => c

def isIndent (c : Char) : Bool := c == ' ' || c == '\t' || c == '\n' || c == '\r'

def saying (c : Char) (r : List Char × List Char) : List Char × List Char := (c :: r.1, r.2)

/-- What a text literal says, and what follows its closing quote. -/
def readText : TextState → List Char → List Char × List Char
  | _, [] => ([], [])
  | .escape, 'x' :: a :: b :: rest =>
    saying (Char.ofNat (Text.numberIn 16 [a, b])) (readText .plain rest)
  | .escape, 'u' :: '\x7b' :: rest => readText (.code 0) rest
  | .escape, c :: rest =>
    if c == '\n' || c == '\r' then readText .continued rest
    else saying (escaped c) (readText .plain rest)
  | .code n, c :: rest =>
    if c == '\x7d' then saying (Char.ofNat n) (readText .plain rest)
    else if c == '_' then readText (.code n) rest
    else readText (.code (n * 16 + Text.digitValue c)) rest
  | .plain, '\r' :: '\n' :: rest => saying '\n' (readText .plain rest)
  | .plain, c :: rest =>
    if c == '"' then ([], rest)
    else if c == '\\' then readText .escape rest
    else saying c (readText .plain rest)
  | .continued, c :: rest =>
    if isIndent c then readText .continued rest
    else if c == '"' then ([], rest)
    else if c == '\\' then readText .escape rest
    else saying c (readText .plain rest)

/-- A raw text ends with a quote and as many number signs as it began with. -/
def readRaw (fence : List Char) : List Char → List Char × List Char
  | [] => ([], [])
  | c :: rest =>
    if c == '"' && fence.isPrefixOf rest then ([], rest.drop fence.length)
    else saying c (readRaw fence rest)

def raw? (cs : List Char) : Option (List Char × List Char) :=
  let fence := cs.takeWhile (· == '#')
  match cs.drop fence.length with
  | '"' :: body => some (readRaw fence body)
  | _ => none

/-- What follows a character literal, given what follows its first quote. -/
def afterChar? : List Char → Option (List Char)
  | '\\' :: _ :: rest => some ((rest.dropWhile (· != '\x27')).drop 1)
  | _ :: '\x27' :: rest => some rest
  | _ => none

def ofQuoted (r : List Char × List Char) : Token × List Char := (.text (String.ofList r.1), r.2)

def ofBytes (r : List Char × List Char) : Token × List Char := (.literal, r.2)

/-- The literal that a text begins with. Nothing counts after a number, so that only its first part
is read. -/
def literal? : List Char → Option (Token × List Char)
  | '"' :: rest => some (ofQuoted (readText .plain rest))
  | 'r' :: rest => (raw? rest).map ofQuoted
  | 'b' :: '"' :: rest => some (ofBytes (readText .plain rest))
  | 'c' :: '"' :: rest => some (ofBytes (readText .plain rest))
  | 'b' :: 'r' :: rest => (raw? rest).map ofBytes
  | 'c' :: 'r' :: rest => (raw? rest).map ofBytes
  | 'b' :: '\x27' :: rest => (afterChar? rest).map fun after => (.literal, after)
  | '\x27' :: rest => (afterChar? rest).map fun after => (.literal, after)
  | c :: rest => if c.isDigit then some (.number, rest.dropWhile Char.isDigit) else none
  | [] => none

/-- A literal may end with a word, which says of what type it is. -/
def dropSuffix (cs : List Char) : List Char :=
  if cs.head?.any isWordStart then cs.dropWhile isWordPart else cs

def readWord : List Char → List Char × List Char
  | 'r' :: '#' :: rest => ('r' :: '#' :: rest.takeWhile isWordPart, rest.dropWhile isWordPart)
  | cs => (cs.takeWhile isWordPart, cs.dropWhile isWordPart)

/-- The tokens of what a text begins with, and what follows it. -/
def readFirst : List Char → List Token × List Char
  | [] => ([], [])
  | c :: rest =>
    if isGap c then ([], rest)
    else match afterComment? (c :: rest) with
      | some after =>
        (if isDocumentation (c :: rest) then [.mark '#' false, .mark '[' false] else [], after)
      | none =>
        match literal? (c :: rest) with
        | some (t, after) => ([t], dropSuffix after)
        | none =>
          if isWordStart c then
            let (w, after) := readWord (c :: rest)
            ([.word (String.ofList w)], after)
          else ([.mark c (beginsWithMark rest)], rest)

/-- The tokens of a text, with a bound for how many times something is read from it. -/
def readAll : Nat → List Char → List Token
  | 0, _ => []
  | _, [] => []
  | n + 1, cs =>
    let (tokens, after) := readFirst cs
    tokens ++ readAll n after

/-- Each reading takes a character, at least. -/
def ofText (s : String) : List Token := readAll s.length s.toList

def word? : Token → Option String
  | .word s => some s
  | _ => none

end Token
end EventDispatch
