/-! Bytes as hexadecimal text.

Bytes are written as two lowercase hexadecimal digits each, with no prefix. Reading accepts
either case and skips ASCII blanks between bytes; a digit pair may not be split. A failure names
the position of the first character that cannot stand where it is, the end of the text when a
pair is cut short.
-/

set_option autoImplicit false

namespace MarginLending.Data.Hex

def digit (n : Nat) : Char := "0123456789abcdef".toList.getD n '0'

def encode (bytes : List UInt8) : String :=
  String.ofList (bytes.flatMap fun b => [digit (b.toNat / 16), digit (b.toNat % 16)])

def digitValue? (c : Char) : Option Nat :=
  if '0' ≤ c ∧ c ≤ '9' then some (c.toNat - '0'.toNat)
  else if 'a' ≤ c ∧ c ≤ 'f' then some (c.toNat - 'a'.toNat + 10)
  else if 'A' ≤ c ∧ c ≤ 'F' then some (c.toNat - 'A'.toNat + 10)
  else none

def isBlank (c : Char) : Bool :=
  c = ' ' ∨ c = '\t' ∨ c = '\n' ∨ c = '\r' ∨ c = '\x0b' ∨ c = '\x0c'

def decodeFrom : List Char → Nat → Except String (List UInt8)
  | [], _ => .ok []
  | c :: rest, pos =>
    if isBlank c then decodeFrom rest (pos + 1)
    else match digitValue? c with
      | none => .error ("non-hexadecimal number found in fromhex() arg at position " ++ toString pos)
      | some hi =>
        match rest with
        | [] => .error ("non-hexadecimal number found in fromhex() arg at position " ++
              toString (pos + 1))
        | d :: rest' =>
          match digitValue? d with
          | none =>
            .error ("non-hexadecimal number found in fromhex() arg at position " ++
              toString (pos + 1))
          | some lo => (decodeFrom rest' (pos + 2)).map ((hi * 16 + lo).toUInt8 :: ·)

/-- Reads hexadecimal text, or says where it stops being hexadecimal. A text with a character
beyond ASCII stops there before anything is read. -/
def decode (text : String) : Except String (List UInt8) :=
  match text.toList.findIdx? (fun c => 128 ≤ c.toNat) with
  | some i => .error ("non-hexadecimal number found in fromhex() arg at position " ++ toString i)
  | none => decodeFrom text.toList 0

end MarginLending.Data.Hex
