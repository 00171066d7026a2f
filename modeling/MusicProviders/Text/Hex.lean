import MusicProviders.Text.DebugQuote

/-! # Hexadecimal byte strings

Bytes travel as lower-case hexadecimal text, two digits a byte.

* `Bytes` — a byte string as a list.
* `Bytes.toHex` — two lower-case digits per byte.
* `Bytes.decodeHex` — the bytes of an even-length text of hexadecimal digits of either
  case. The text is read as its UTF-8 bytes: an odd byte count is an error, and so is
  the first byte that is not a digit, named as the character of that byte value with
  its byte position.
-/

namespace MusicProviders

/-- A byte string. -/
abbrev Bytes := List UInt8

namespace Bytes

/-- Lower-case hexadecimal digit of a value below sixteen. -/
def hexDigit (n : Nat) : Char :=
  if n < 10 then Char.ofNat ('0'.toNat + n) else Char.ofNat ('a'.toNat + n - 10)

/-- Two lower-case hexadecimal digits per byte. -/
def toHex (bytes : Bytes) : String :=
  String.ofList (bytes.flatMap fun b => [hexDigit (b.toNat / 16), hexDigit (b.toNat % 16)])

/-- Value of a hexadecimal digit of either case. -/
def hexValue? (c : Char) : Option Nat :=
  if '0' ≤ c ∧ c ≤ '9' then some (c.toNat - '0'.toNat)
  else if 'a' ≤ c ∧ c ≤ 'f' then some (c.toNat - 'a'.toNat + 10)
  else if 'A' ≤ c ∧ c ≤ 'F' then some (c.toNat - 'A'.toNat + 10)
  else none

/-- Why a text is not a hexadecimal byte string. -/
inductive HexError
  /-- The text has an odd number of bytes. -/
  | oddLength
  /-- The byte at `index`, shown as the character of its value, is not a digit. -/
  | invalidCharacter (c : Char) (index : Nat)
deriving DecidableEq, Repr

/-- The text of a hexadecimal decoding error. -/
def HexError.message : HexError → String
  | .oddLength => "Odd number of digits"
  | .invalidCharacter c index =>
    "Invalid character " ++ Text.debugQuoteChar c ++ " at position " ++ toString index

/-- The digit value of the byte at `index`. -/
def byteDigit (index : Nat) (b : UInt8) : Except HexError Nat :=
  match hexValue? (Char.ofNat b.toNat) with
  | some v => .ok v
  | none => .error (.invalidCharacter (Char.ofNat b.toNat) index)

/-- Bytes of digit bytes taken in pairs, the first of them at `index`; a single byte
left over is ignored (the length is checked before). -/
def decodePairs (index : Nat) : List UInt8 → Except HexError Bytes
  | hi :: lo :: rest => do
    let h ← byteDigit index hi
    let l ← byteDigit (index + 1) lo
    pure (UInt8.ofNat (16 * h + l) :: (← decodePairs (index + 2) rest))
  | _ => .ok []

/-- Bytes of a hexadecimal text. -/
def decodeHex (text : String) : Except HexError Bytes :=
  let bytes := text.toUTF8.toList
  if bytes.length % 2 = 1 then .error .oddLength else decodePairs 0 bytes

/-- The UTF-8 encoding of a string. -/
def ofString (s : String) : Bytes := s.toUTF8.toList

end Bytes

end MusicProviders
