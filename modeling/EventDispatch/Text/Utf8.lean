namespace EventDispatch

abbrev Bytes := List UInt8

namespace Text

def utf8 (s : String) : Bytes := s.toUTF8.data.toList

def ofUtf8? (bytes : Bytes) : Option String := String.fromUTF8? ⟨bytes.toArray⟩

/-- What may follow a leading byte: how many bytes, and the bounds of the first of them. -/
structure Lead where
  following : Nat
  low : UInt8
  high : UInt8

def lead? (b : UInt8) : Option Lead :=
  if 0xC2 ≤ b && b ≤ 0xDF then some ⟨1, 0x80, 0xBF⟩
  else if b == 0xE0 then some ⟨2, 0xA0, 0xBF⟩
  else if b == 0xED then some ⟨2, 0x80, 0x9F⟩
  else if 0xE1 ≤ b && b ≤ 0xEF then some ⟨2, 0x80, 0xBF⟩
  else if b == 0xF0 then some ⟨3, 0x90, 0xBF⟩
  else if 0xF1 ≤ b && b ≤ 0xF3 then some ⟨3, 0x80, 0xBF⟩
  else if b == 0xF4 then some ⟨3, 0x80, 0x8F⟩
  else none

def isContinuation (b : UInt8) : Bool := 0x80 ≤ b && b ≤ 0xBF

/-- The character with these leading and continuation bytes. -/
def assemble (leading : UInt8) (following : List UInt8) : Char :=
  let bits := match following.length with
    | 1 => leading.toNat % 32
    | 2 => leading.toNat % 16
    | _ => leading.toNat % 8
  Char.ofNat (following.foldl (fun n b => n * 64 + b.toNat % 64) bits)

def replacement : Char := Char.ofNat 0xFFFD

/-- Each longest stretch that begins no well-formed character is read as one replacement character. -/
def lenientChars : Bytes → List Char
  | [] => []
  | a :: rest =>
    if a < 0x80 then Char.ofNat a.toNat :: lenientChars rest
    else match lead? a, rest with
      | none, rest => replacement :: lenientChars rest
      | some _, [] => [replacement]
      | some l, b :: rest =>
        if l.low ≤ b && b ≤ l.high then
          if l.following == 1 then assemble a [b] :: lenientChars rest
          else match rest with
            | [] => [replacement]
            | c :: rest =>
              if isContinuation c then
                if l.following == 2 then assemble a [b, c] :: lenientChars rest
                else match rest with
                  | [] => [replacement]
                  | d :: rest =>
                    if isContinuation d then assemble a [b, c, d] :: lenientChars rest
                    else replacement :: lenientChars (d :: rest)
              else replacement :: lenientChars (c :: rest)
        else replacement :: lenientChars (b :: rest)

def lenient (bytes : Bytes) : String := String.ofList (lenientChars bytes)

end Text
end EventDispatch
