/-! # Reading UTF-8 bytes

`decodeUtf8Lossy` reads bytes as UTF-8 text, putting one replacement character
`U+FFFD` in place of each maximal prefix of a sequence that cannot be completed, and of
each byte that cannot start one; an incomplete sequence at the end becomes one
replacement character.
-/

namespace MusicProviders

namespace Text

/-- A continuation byte `10xxxxxx`. -/
def isContinuation (b : UInt8) : Bool := 0x80 ≤ b && b ≤ 0xBF

/-- The allowed range of the second byte after a leading byte of a three- or four-byte
sequence: it excludes overlong forms, surrogates and values beyond `U+10FFFF`. -/
def secondByteOk (lead b : UInt8) : Bool :=
  if lead == 0xE0 then 0xA0 ≤ b && b ≤ 0xBF
  else if lead == 0xED then 0x80 ≤ b && b ≤ 0x9F
  else if lead == 0xF0 then 0x90 ≤ b && b ≤ 0xBF
  else if lead == 0xF4 then 0x80 ≤ b && b ≤ 0x8F
  else isContinuation b

/-- The low six bits of a continuation byte. -/
def payload (b : UInt8) : Nat := (b &&& 0x3F).toNat

/-- The replacement character. -/
def replacement : Char := '�'

/-- The character of a code point known to be a scalar value. -/
def scalar (n : Nat) : Char := Char.ofNat n

/-- The character that a sequence starting with byte `b` and followed by `rest` decodes
to, and how many bytes it takes (always at least one): a complete sequence gives its
character, anything else one replacement character for its longest valid prefix. -/
def firstChar (b : UInt8) (rest : List UInt8) : Char × Nat :=
  if b < 0x80 then (scalar b.toNat, 1)
  else if 0xC2 ≤ b && b ≤ 0xDF then
    match rest with
    | c :: _ =>
      if isContinuation c then (scalar ((b &&& 0x1F).toNat * 64 + payload c), 2)
      else (replacement, 1)
    | [] => (replacement, 1)
  else if 0xE0 ≤ b && b ≤ 0xEF then
    match rest with
    | c :: d :: _ =>
      if !secondByteOk b c then (replacement, 1)
      else if isContinuation d then
        (scalar ((b &&& 0x0F).toNat * 4096 + payload c * 64 + payload d), 3)
      else (replacement, 2)
    | [c] => (replacement, if secondByteOk b c then 2 else 1)
    | [] => (replacement, 1)
  else if 0xF0 ≤ b && b ≤ 0xF4 then
    match rest with
    | c :: d :: e :: _ =>
      if !secondByteOk b c then (replacement, 1)
      else if !isContinuation d then (replacement, 2)
      else if isContinuation e then
        (scalar ((b &&& 0x07).toNat * 262144 + payload c * 4096 + payload d * 64 + payload e), 4)
      else (replacement, 3)
    | [c, d] =>
      (replacement, if !secondByteOk b c then 1 else if isContinuation d then 3 else 2)
    | [c] => (replacement, if secondByteOk b c then 2 else 1)
    | [] => (replacement, 1)
  else (replacement, 1)

/-- Decode bytes as UTF-8, replacing what is not; every step takes at least one byte, so
the length of the input bounds the steps. -/
def decodeChars (bytes : List UInt8) : List Char :=
  go bytes.length bytes
where
  go : Nat → List UInt8 → List Char
    | 0, _ => []
    | _, [] => []
    | fuel + 1, b :: rest =>
      let (c, n) := firstChar b rest
      c :: go fuel (rest.drop (n - 1))

/-- Bytes read as UTF-8 text, with replacement characters where they are not. -/
def decodeUtf8Lossy (bytes : List UInt8) : String := String.ofList (decodeChars bytes)

end Text

end MusicProviders
