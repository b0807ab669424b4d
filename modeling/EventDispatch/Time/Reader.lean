import EventDispatch.Text.Blank
import EventDispatch.Text.Digits
import EventDispatch.Time.Timestamp

namespace EventDispatch.Timestamp

def digitsUpTo (limit : Nat) (cs : List Char) : Option (List Char × List Char) :=
  let ds := (cs.take limit).takeWhile Char.isDigit
  if ds.isEmpty then none else some (ds, cs.drop ds.length)

def number (limit : Nat) (cs : List Char) : Option (Nat × List Char) := do
  let (ds, rest) ← digitsUpTo limit (Text.dropBlanks cs)
  some (Text.numberIn 10 ds, rest)

/-- A sign lifts the limit of four digits. -/
def year (cs : List Char) : Option (Int × List Char) := do
  match Text.dropBlanks cs with
  | '-' :: rest =>
    let (ds, rest) ← digitsUpTo rest.length rest
    some (-(Text.numberIn 10 ds : Int), rest)
  | '+' :: rest =>
    let (ds, rest) ← digitsUpTo rest.length rest
    some ((Text.numberIn 10 ds : Int), rest)
  | cs =>
    let (ds, rest) ← digitsUpTo 4 cs
    some ((Text.numberIn 10 ds : Int), rest)

def mark (c : Char) (cs : List Char) : Option (List Char) :=
  match Text.dropBlanks cs with
  | d :: rest => if d = c then some rest else none
  | [] => none

def dateEnd : List Char → Option (List Char)
  | 'T' :: rest => some rest
  | 't' :: rest => some rest
  | ' ' :: rest => some rest
  | _ => none

def readFraction (cs : List Char) : Option (Nat × List Char) :=
  match cs with
  | '.' :: rest => do
    let (ds, rest) ← digitsUpTo 9 rest
    some (Text.numberIn 10 ds * Nat.pow 10 (9 - ds.length), rest.dropWhile Char.isDigit)
  | cs => some (0, cs)

def twoDigits : List Char → Option (Nat × List Char)
  | a :: b :: rest => if a.isDigit && b.isDigit then some (Text.numberIn 10 [a, b], rest) else none
  | _ => none

/-- The minutes by which local time is ahead of UTC. -/
def offset (cs : List Char) : Option (Int × List Char) := do
  match cs with
  | [] => none
  | c :: rest =>
    if c = 'Z' ∨ c = 'z' then some (0, rest)
    else if (cs.take 3).map Char.toUpper = ['U', 'T', 'C'] then some (0, cs.drop 3)
    else
      -- The minus sign U+2212 is taken like a hyphen.
      let sign : Int ← if c = '+' then some 1
        else if c = '-' ∨ c = Char.ofNat 0x2212 then some (-1)
        else none
      let (hours, rest) ← twoDigits rest
      let (minutes, rest) ← twoDigits (rest.dropWhile fun c => c == ':' || Text.isBlank c)
      if minutes < 60 ∧ hours < 24 then some (sign * (hours * 60 + minutes : Nat), rest) else none

def shiftDays (d : Date) (days : Int) : Option Date :=
  if days = 1 then d.next? else if days = -1 then d.previous? else some d

/-- The moment that a local clock shows when it is `offset` minutes ahead of UTC. -/
def ofLocal? (date : Date) (hour minute second nanosecond : Nat) (offset : Int) :
    Option Timestamp :=
  let total : Int := (hour * 60 + minute : Nat) - offset
  let inDay := (total % 1440).toNat
  (shiftDays date (total / 1440)).bind fun date =>
    if h : inDay / 60 < 24 ∧ inDay % 60 < 60 ∧ second ≤ 60 ∧ nanosecond < 1000000000 then
      some ⟨date, inDay / 60, inDay % 60, second, nanosecond, h.1, h.2.1, h.2.2.1, h.2.2.2⟩
    else none

/-- A date, `T` or a blank, a time of day and an offset from UTC. Blanks may stand around the parts,
leading zeros may be missing, and digits of a fraction beyond the ninth are cut. -/
def ofChars? (cs : List Char) : Option Timestamp := do
  let (y, cs) ← year cs
  let (m, cs) ← number 2 (← mark '-' cs)
  let (d, cs) ← number 2 (← mark '-' cs)
  let (hour, cs) ← number 2 (← dateEnd cs)
  let (minute, cs) ← number 2 (← mark ':' cs)
  let (second, cs) ← number 2 (← mark ':' cs)
  let (nanosecond, cs) ← readFraction cs
  let (ahead, cs) ← offset (Text.dropBlanks cs)
  let date ← Date.ofFields? y m d
  if hour < 24 ∧ minute < 60 ∧ (Text.dropBlanks cs).isEmpty then
    ofLocal? date hour minute second nanosecond ahead
  else none

def ofText? (s : String) : Option Timestamp := ofChars? s.toList

end EventDispatch.Timestamp
