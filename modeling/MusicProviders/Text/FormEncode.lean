import MusicProviders.Text.Hex

/-! # Form encoding

The `application/x-www-form-urlencoded` serialisation used in URL queries: ASCII
letters, digits and `* - . _` stand for themselves, a space becomes `+`, and every
other byte of the UTF-8 encoding becomes `%` and two upper-case hexadecimal digits.

* `formEncode` — one name or value.
* `formQuery` — `name=value` pairs joined by `&`.
-/

namespace MusicProviders

namespace Text

/-- Upper-case hexadecimal digit of a value below sixteen. -/
def upperHexDigit (n : Nat) : Char :=
  if n < 10 then Char.ofNat ('0'.toNat + n) else Char.ofNat ('A'.toNat + n - 10)

/-- Whether a byte stands for itself in form encoding. -/
def isFormSafe (b : UInt8) : Bool :=
  let c := Char.ofNat b.toNat
  b < 0x80 && (c.isAlphanum || c = '*' || c = '-' || c = '.' || c = '_')

/-- The encoding of one byte. -/
def formEncodeByte (b : UInt8) : List Char :=
  if b = 0x20 then ['+']
  else if isFormSafe b then [Char.ofNat b.toNat]
  else ['%', upperHexDigit (b.toNat / 16), upperHexDigit (b.toNat % 16)]

/-- The form encoding of a text. -/
def formEncode (s : String) : String :=
  String.ofList ((Bytes.ofString s).flatMap formEncodeByte)

/-- Pairs as a form-encoded query. -/
def formQuery (pairs : List (String × String)) : String :=
  "&".intercalate (pairs.map fun (k, v) => formEncode k ++ "=" ++ formEncode v)

end Text

end MusicProviders
