import EventDispatch.Time.Date
import EventDispatch.Toml.Text
import EventDispatch.Toml.Value

namespace EventDispatch.Toml

/-- Digits with single underscores between them, without the underscores. -/
def digitGroups (isDigit : Char → Bool) : List Char → Option (List Char)
  | [] => none
  | [d] => if isDigit d then some [d] else none
  | d :: '_' :: rest => if isDigit d then (digitGroups isDigit rest).map (d :: ·) else none
  | d :: rest => if isDigit d then (digitGroups isDigit rest).map (d :: ·) else none

def inRange (n : Int) : Option Int :=
  if Int64.minValue.toInt ≤ n ∧ n ≤ Int64.maxValue.toInt then some n else none

/-- Decimal digits without a needless zero in front. -/
def decimal? (cs : List Char) : Option (List Char) :=
  (digitGroups Char.isDigit cs).filter fun ds => ds.length = 1 || ds.head? != some '0'

def unsigned : List Char → List Char
  | '+' :: rest => rest
  | '-' :: rest => rest
  | cs => cs

def integer? (cs : List Char) : Option Int :=
  match cs with
  | '0' :: 'x' :: rest =>
    (digitGroups Text.isHexDigit rest).bind fun ds => inRange (Text.numberIn 16 ds)
  | '0' :: 'o' :: rest =>
    (digitGroups (fun c => '0' ≤ c && c ≤ '7') rest).bind fun ds => inRange (Text.numberIn 8 ds)
  | '0' :: 'b' :: rest =>
    (digitGroups (fun c => c == '0' || c == '1') rest).bind fun ds => inRange (Text.numberIn 2 ds)
  | '-' :: rest => (decimal? rest).bind fun ds => inRange (-(Text.numberIn 10 ds : Int))
  | cs => (decimal? (unsigned cs)).bind fun ds => inRange (Text.numberIn 10 ds)

def isExponentMark (c : Char) : Bool := c == 'e' || c == 'E'

/-- The digits after a point, if there is one. -/
def fraction? : List Char → Option (List Char)
  | [] => some []
  | _ :: cs => digitGroups Char.isDigit cs

/-- The power of ten after an exponent's mark, if there is one. -/
def exponent? : List Char → Option Int
  | [] => some 0
  | _ :: cs => (digitGroups Char.isDigit (unsigned cs)).map fun ds =>
    if cs.head? = some '-' then -(Text.numberIn 10 ds : Int) else Text.numberIn 10 ds

/-- From here on a number is as near to infinity as to the largest float. -/
def floatLimit : Nat := Nat.pow 2 1024 - Nat.pow 2 970

/-- Whether `m · 10 ^ e` is above all floats. It lies between two neighbouring powers of ten, which
decide unless they are those around the limit. -/
def overflows (m : Nat) (e : Int) : Bool :=
  let order := (Nat.toDigits 10 m).length + e
  if m = 0 ∨ order < 309 then false
  else if 309 < order then true
  else floatLimit * Nat.pow 10 (-e).toNat ≤ m * Nat.pow 10 e.toNat

/-- A whole part with a fraction, an exponent, or both; or one of the named values. Above all floats
is no value, below all of them is one. -/
def isFloat (cs : List Char) : Bool :=
  let body := unsigned cs
  if body = ['i', 'n', 'f'] ∨ body = ['n', 'a', 'n'] then true
  else
    let mantissa := body.takeWhile fun c => !isExponentMark c
    let exponent := body.drop mantissa.length
    let whole := mantissa.takeWhile (· != '.')
    let fraction := mantissa.drop whole.length
    match decimal? whole, fraction? fraction, exponent? exponent with
    | some w, some f, some e =>
      !(fraction.isEmpty && exponent.isEmpty) &&
        (cs.head? == some '-' || !overflows (Text.numberIn 10 (w ++ f)) (e - f.length))
    | _, _, _ => false

def twoDigits? (limit : Nat) : List Char → Option (List Char)
  | a :: b :: rest =>
    if a.isDigit && b.isDigit && Text.numberIn 10 [a, b] ≤ limit then some rest else none
  | _ => none

def skip? (c : Char) : List Char → Option (List Char)
  | d :: rest => if d = c then some rest else none
  | [] => none

def afterDate? : List Char → Option (List Char)
  | y₁ :: y₂ :: y₃ :: y₄ :: '-' :: m₁ :: m₂ :: '-' :: d₁ :: d₂ :: rest =>
    let year := Text.numberIn 10 [y₁, y₂, y₃, y₄]
    let month := Text.numberIn 10 [m₁, m₂]
    let day := Text.numberIn 10 [d₁, d₂]
    if [y₁, y₂, y₃, y₄, m₁, m₂, d₁, d₂].all Char.isDigit ∧ IsDate year month day then some rest
    else none
  | _ => none

def afterTime? (cs : List Char) : Option (List Char) := do
  let cs ← skip? ':' (← twoDigits? 23 cs)
  let cs ← skip? ':' (← twoDigits? 59 cs)
  let cs ← twoDigits? 60 cs
  match cs with
  | '.' :: rest =>
    if (rest.takeWhile Char.isDigit).isEmpty then none else some (rest.dropWhile Char.isDigit)
  | cs => some cs

def isOffset (cs : List Char) : Bool :=
  match cs with
  | [] => true
  | ['Z'] => true
  | ['z'] => true
  | c :: rest =>
    (c == '+' || c == '-') &&
      ((twoDigits? 23 rest).bind (skip? ':') |>.bind (twoDigits? 59)) == some []

def isDate (cs : List Char) : Bool :=
  match afterDate? cs with
  | none => afterTime? cs == some []
  | some [] => true
  | some (c :: rest) =>
    (c == 'T' || c == 't' || c == ' ') && ((afterTime? rest).map isOffset).getD false

/-- The value whose whole text this is. -/
def scalar (cs : List Char) : Option Value :=
  if cs = ['t', 'r', 'u', 'e'] then some (.boolean true)
  else if cs = ['f', 'a', 'l', 's', 'e'] then some (.boolean false)
  else match integer? cs with
    | some n => some (.integer n)
    | none =>
      if isFloat cs then some .float
      else if isDate cs then some .date
      else none

def isScalarChar (c : Char) : Bool :=
  c.isAlpha || c.isDigit || c == '_' || c == '-' || c == '+' || c == '.' || c == ':'

/-- The text of a value that is not quoted or bracketed. A blank may stand between a date and a
time. -/
def scalarText (cs : List Char) : List Char :=
  let first := cs.takeWhile isScalarChar
  match cs.drop first.length with
  | ' ' :: d :: rest =>
    if (afterDate? first) == some [] && d.isDigit then
      first ++ ' ' :: (d :: rest).takeWhile isScalarChar
    else first
  | _ => first

end EventDispatch.Toml
