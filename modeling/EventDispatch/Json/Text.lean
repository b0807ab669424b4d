import EventDispatch.Json.Lexical

namespace EventDispatch.Json

def hexDigit (n : Nat) : Char := Nat.digitChar n

def escapeChar (c : Char) : List Char :=
  match c with
  | '"' => ['\\', '"']
  | '\\' => ['\\', '\\']
  | '\x08' => ['\\', 'b']
  | '\x0c' => ['\\', 'f']
  | '\n' => ['\\', 'n']
  | '\r' => ['\\', 'r']
  | '\t' => ['\\', 't']
  | c =>
    if c.toNat < 0x20 then
      ['\\', 'u', '0', '0', hexDigit (c.toNat / 16), hexDigit (c.toNat % 16)]
    else [c]

def quote (s : String) : String := String.ofList ('"' :: s.toList.flatMap escapeChar ++ ['"'])

def hexValue (b : UInt8) : Nat :=
  if isDigit b then (b - byte '0').toNat
  else if byte 'a' ≤ b then (b - byte 'a').toNat + 10
  else (b - byte 'A').toNat + 10

def codeUnit? (digits : List UInt8) : Option Nat :=
  if digits.all isHexDigit then some (digits.foldl (fun n b => n * 16 + hexValue b) 0) else none

def simpleEscape? (b : UInt8) : Option UInt8 :=
  if b == byte '"' || b == byte '\\' || b == byte '/' then some b
  else if b == byte 'b' then some 8
  else if b == byte 'f' then some 12
  else if b == byte 'n' then some 10
  else if b == byte 'r' then some 13
  else if b == byte 't' then some 9
  else none

def isLeading (unit : Nat) : Bool := 0xD800 ≤ unit && unit < 0xDC00

def isTrailing (unit : Nat) : Bool := 0xDC00 ≤ unit && unit < 0xE000

def joinUnits (leading trailing : Nat) : Nat :=
  0x10000 + (leading - 0xD800) * 0x400 + (trailing - 0xDC00)

def charBytes (code : Nat) : Bytes := String.utf8EncodeChar (Char.ofNat code)

/-- The bytes that the inside of a string stands for. A code unit of a pair does not stand alone. -/
def unescape : Bytes → Option Bytes
  | [] => some []
  | b :: rest =>
    if b == byte '"' || b < 0x20 then none
    else if b == byte '\\' then
      match rest with
      | [] => none
      | e :: rest =>
        if e == byte 'u' then
          match rest with
          | h₁ :: h₂ :: h₃ :: h₄ :: rest =>
            match codeUnit? [h₁, h₂, h₃, h₄] with
            | none => none
            | some unit =>
              if isTrailing unit then none
              else if isLeading unit then
                -- The trailing unit of the pair has to follow at once.
                match rest with
                | backslash :: u :: l₁ :: l₂ :: l₃ :: l₄ :: rest =>
                  match codeUnit? [l₁, l₂, l₃, l₄] with
                  | none => none
                  | some low =>
                    if backslash == byte '\\' && u == byte 'u' && isTrailing low then
                      (unescape rest).map (charBytes (joinUnits unit low) ++ ·)
                    else none
                | _ => none
              else (unescape rest).map (charBytes unit ++ ·)
          | _ => none
        else
          match simpleEscape? e with
          | none => none
          | some c => (unescape rest).map (c :: ·)
    else (unescape rest).map (b :: ·)

def string? (value : Bytes) : Option String :=
  match value with
  | [] => none
  | b :: rest =>
    if b == byte '"' && rest.getLast? == some (byte '"') then
      (unescape rest.dropLast).bind Text.ofUtf8?
    else none

end EventDispatch.Json
