import MusicProviders.Json.Basic

/-! # Reading JSON text

`Json.parse` reads one JSON value from a text, with nothing but blanks after it.

* Numbers: an integer literal that fits stays an integer (`JsonNumber.unsigned` up to
  `2 ^ 64 - 1`, `JsonNumber.negative` down to `-2 ^ 63`); `-0`, longer integers and every
  literal with a fraction or an exponent become a double. The double is computed the
  way the reader scales: the first nineteen or so significant digits as an integer
  rounded to a double, then one correctly rounded multiplication or division by the
  double nearest to the power of ten (`scaleByPowerOfTen`).
* Objects keep their members sorted by key; a repeated key keeps its last value.
* Failures are `ParseError`s with the reader's wording and a line and byte column. The
  reader works byte by byte: a failure at a character it has just looked at or taken is
  reported one byte into that character, one found after reading is reported right
  where reading stopped.
-/

namespace MusicProviders

/-- What went wrong while reading JSON text. -/
inductive ParseErrorCode
  | eofWhileParsingList
  | eofWhileParsingObject
  | eofWhileParsingString
  | eofWhileParsingValue
  | expectedColon
  | expectedListCommaOrEnd
  | expectedObjectCommaOrEnd
  | expectedSomeIdent
  | expectedSomeValue
  | invalidEscape
  | invalidNumber
  | numberOutOfRange
  | invalidUnicodeCodePoint
  | controlCharacterWhileParsingString
  | keyMustBeAString
  | loneLeadingSurrogateInHexEscape
  | trailingComma
  | trailingCharacters
  | unexpectedEndOfHexEscape
  | recursionLimitExceeded
deriving DecidableEq, Repr

/-- The reader's wording of each failure. -/
def ParseErrorCode.text : ParseErrorCode → String
  | .eofWhileParsingList => "EOF while parsing a list"
  | .eofWhileParsingObject => "EOF while parsing an object"
  | .eofWhileParsingString => "EOF while parsing a string"
  | .eofWhileParsingValue => "EOF while parsing a value"
  | .expectedColon => "expected `:`"
  | .expectedListCommaOrEnd => "expected `,` or `]`"
  | .expectedObjectCommaOrEnd => "expected `,` or `\x7d`"
  | .expectedSomeIdent => "expected ident"
  | .expectedSomeValue => "expected value"
  | .invalidEscape => "invalid escape"
  | .invalidNumber => "invalid number"
  | .numberOutOfRange => "number out of range"
  | .invalidUnicodeCodePoint => "invalid unicode code point"
  | .controlCharacterWhileParsingString =>
    "control character (\\u0000-\\u001F) found while parsing a string"
  | .keyMustBeAString => "key must be a string"
  | .loneLeadingSurrogateInHexEscape => "lone leading surrogate in hex escape"
  | .trailingComma => "trailing comma"
  | .trailingCharacters => "trailing characters"
  | .unexpectedEndOfHexEscape => "unexpected end of hex escape"
  | .recursionLimitExceeded => "recursion limit exceeded"

/-- A reading failure with its position: line from 1, column in bytes. -/
structure ParseError where
  code : ParseErrorCode
  line : Nat
  column : Nat
deriving DecidableEq, Repr

/-- The failure as the reader words it. -/
def ParseError.message (e : ParseError) : String :=
  e.code.text ++ " at line " ++ toString e.line ++ " column " ++ toString e.column

namespace JsonReader

/-- A failure while reading: its code and how many bytes of the text lie after the point
it is reported at. The point is a byte offset, and it may fall inside a character: the
reader works byte by byte and reports a character it has looked at one byte into it. -/
structure Failure where
  code : ParseErrorCode
  left : Nat

/-- A reading step: a result and the rest of the text, or a failure. -/
abbrev Step (α : Type) := Except Failure (α × List Char)

/-- The number of bytes of characters in UTF-8. -/
def byteLength (cs : List Char) : Nat := cs.foldl (fun n c => n + c.utf8Size) 0

/-- Fail right before `rest`: everything before it has been read. -/
def failBefore {α : Type} (code : ParseErrorCode) (rest : List Char) : Step α :=
  .error ⟨code, byteLength rest⟩

/-- Fail one byte into the first character of `cs`, the character the reader has just
looked at or taken; at the end of the text when there is none. -/
def failInto {α : Type} (code : ParseErrorCode) : List Char → Step α
  | [] => .error ⟨code, 0⟩
  | c :: rest => .error ⟨code, c.utf8Size - 1 + byteLength rest⟩

/-- Skip spaces, tabs, line feeds and carriage returns. -/
def skipBlank : List Char → List Char
  | c :: rest => if c = ' ' ∨ c = '\t' ∨ c = '\n' ∨ c = '\r' then skipBlank rest else c :: rest
  | [] => []

/-- Read the remaining letters of `true`, `false` or `null`. -/
def literal (word : List Char) (v : Json) : List Char → Step Json
  | cs => go word cs
where
  go : List Char → List Char → Step Json
    | [], rest => .ok (v, rest)
    | w :: ws, c :: rest => if c = w then go ws rest else failInto .expectedSomeIdent (c :: rest)
    | _ :: _, [] => failInto .eofWhileParsingValue []

/-- The value of a decimal digit character. -/
def digitValue (c : Char) : Nat := c.toNat - '0'.toNat

/-- The double nearest to `10 ^ k`, for `k ≤ 308`. -/
def powerOfTen (k : Nat) : Binary64 :=
  (Binary64.ofScientific false 1 k).getD (Binary64.zero false)

/-- Scale a significand by a power of ten the way the reader does: the significand rounded
to a double, then one rounded multiplication or division by the double nearest to the
power; exponents beyond 308 first divide by `1e308` (or overflow). `none` is overflow. -/
def scaleByPowerOfTen (significand : Nat) (exp : Int) : Option Binary64 :=
  go 4 (Binary64.ofInt significand) exp
where
  go : Nat → Binary64 → Int → Option Binary64
    | 0, f, _ => some f
    | fuel + 1, f, e =>
      if e.natAbs ≤ 308 then
        if 0 ≤ e then f.mul (powerOfTen e.toNat) else f.div (powerOfTen e.natAbs)
      else if f.isZero then some f
      else if 0 ≤ e then none
      else match f.div (powerOfTen 308) with
        | some g => go fuel g (e + 308)
        | none => none

/-- Digits of a number: accumulate into `sig` while it stays below `2 ^ 64`; digits past
that are counted in `dropped` (they only move the decimal exponent for the integer
part). Returns the significand, the number of integer digits dropped, and the rest. -/
def readDigits (sig dropped : Nat) (overflowed : Bool) : List Char → Nat × Nat × Bool × List Char
  | c :: rest =>
    if c.isDigit then
      if overflowed || sig * 10 + digitValue c > JsonNumber.u64Max then
        readDigits sig (dropped + 1) true rest
      else readDigits (sig * 10 + digitValue c) dropped false rest
    else (sig, dropped, overflowed, c :: rest)
  | [] => (sig, dropped, overflowed, [])

/-- Fraction digits: accumulate while the significand stays below `2 ^ 64`, counting the
accumulated ones; later ones are dropped. -/
def readFraction (sig taken : Nat) (overflowed : Bool) : List Char → Nat × Nat × Bool × List Char
  | c :: rest =>
    if c.isDigit then
      if overflowed || sig * 10 + digitValue c > JsonNumber.u64Max then
        readFraction sig taken true rest
      else readFraction (sig * 10 + digitValue c) (taken + 1) false rest
    else (sig, taken, overflowed, c :: rest)
  | [] => (sig, taken, overflowed, [])

/-- Exponent digits after the first one: the value and the rest, or, as soon as the value
passes `2 ^ 31 - 1`, the text right after the digit that made it pass. -/
def readExponentDigits (acc : Nat) : List Char → Except (List Char) (Nat × List Char)
  | c :: rest =>
    if c.isDigit then
      let acc' := acc * 10 + digitValue c
      if acc' > Nat.pow 2 31 - 1 then .error rest else readExponentDigits acc' rest
    else .ok (acc, c :: rest)
  | [] => .ok (acc, [])

/-- The double of a significand scaled by `10 ^ exp`, with its sign, or the overflow
failure reported at `rest`. -/
def finishFloat (negative : Bool) (sig : Nat) (exp : Int) (rest : List Char) : Step JsonNumber :=
  match scaleByPowerOfTen sig exp with
  | some x => .ok (.float (if negative then x.neg else x), rest)
  | none => failBefore .numberOutOfRange rest

/-- An exponent part, starting at `e` or `E`. -/
def readExponent (negative : Bool) (sig : Nat) (exp : Int) : List Char → Step JsonNumber
  | _ :: rest =>
    let (positiveExp, rest) := match rest with
      | '+' :: r => (true, r)
      | '-' :: r => (false, r)
      | r => (true, r)
    match rest with
    | c :: r =>
      if c.isDigit then
        match readExponentDigits (digitValue c) r with
        | .ok (value, r) =>
          finishFloat negative sig (if positiveExp then exp + value else exp - value) r
        | .error r =>
          -- an exponent past `2 ^ 31 - 1`: overflow for a non-zero value scaled up, else zero
          if sig ≠ 0 ∧ positiveExp then failBefore .numberOutOfRange r
          else .ok (.float (Binary64.zero negative), r.dropWhile Char.isDigit)
      else failInto .invalidNumber (c :: r)
    | [] => failInto .eofWhileParsingValue []
  | [] => failInto .eofWhileParsingValue []

/-- The part of a number after its integer digits: a fraction, an exponent or the end. -/
def readNumberTail (negative : Bool) (sig : Nat) (exp : Int) (isLong : Bool) :
    List Char → Step JsonNumber
  | '.' :: rest =>
    let (sig', taken, _, rest') := readFraction sig 0 isLong rest
    -- at least one digit must follow the point
    match rest with
    | c :: _ =>
      if !c.isDigit then failInto .invalidNumber rest
      else
        let exp' := exp - taken
        match rest' with
        | c' :: _ => if c' = 'e' ∨ c' = 'E' then readExponent negative sig' exp' rest'
                     else finishFloat negative sig' exp' rest'
        | [] => finishFloat negative sig' exp' rest'
    | [] => failInto .eofWhileParsingValue []
  | c :: rest =>
    if c = 'e' ∨ c = 'E' then readExponent negative sig exp (c :: rest)
    else if isLong then finishFloat negative sig exp (c :: rest)
    else .ok (integerNumber negative sig, c :: rest)
  | [] => if isLong then finishFloat negative sig exp [] else .ok (integerNumber negative sig, [])
where
  /-- An integer literal without fraction or exponent. -/
  integerNumber (negative : Bool) (sig : Nat) : JsonNumber :=
    if !negative then .unsigned sig
    else if sig = 0 ∨ sig > Nat.pow 2 63 then .float (Binary64.ofInt sig).neg
    else .negative (-(sig : Int))

/-- A number, starting after its optional minus sign. -/
def readNumber (negative : Bool) : List Char → Step JsonNumber
  | '0' :: rest =>
    match rest with
    | c :: _ => if c.isDigit then failInto .invalidNumber rest else readNumberTail negative 0 0 false rest
    | [] => readNumberTail negative 0 0 false []
  | c :: rest =>
    if c.isDigit then
      let (sig, dropped, overflowed, rest') := readDigits (digitValue c) 0 false rest
      readNumberTail negative sig dropped overflowed rest'
    else failInto .invalidNumber (c :: rest)
  | [] => failInto .eofWhileParsingValue []

/-- The value of a hexadecimal digit. -/
def hexValue (c : Char) : Option Nat :=
  if c.isDigit then some (digitValue c)
  else if 'a' ≤ c ∧ c ≤ 'f' then some (c.toNat - 'a'.toNat + 10)
  else if 'A' ≤ c ∧ c ≤ 'F' then some (c.toNat - 'A'.toNat + 10)
  else none

/-- Four hexadecimal digits of a `\u` escape. The reader takes the next four bytes at
once: fewer than four left is the end of the text, and four that are not all digits are
an invalid escape reported after them. -/
def readHex4 : List Char → Except Failure (Nat × List Char)
  | a :: b :: c :: d :: rest =>
    match hexValue a, hexValue b, hexValue c, hexValue d with
    | some w, some x, some y, some z => .ok (((w * 16 + x) * 16 + y) * 16 + z, rest)
    | _, _, _, _ => .error ⟨.invalidEscape, byteLength (a :: b :: c :: d :: rest) - 4⟩
  | cs =>
    if byteLength cs ≥ 4 then .error ⟨.invalidEscape, byteLength cs - 4⟩
    else .error ⟨.eofWhileParsingString, 0⟩

/-- The characters of a string up to its closing quote, which is consumed; `fuel` bounds
the steps by the length of the text. -/
def readStringChars : Nat → List Char → List Char → Step String
  | 0, _, cs => failInto .eofWhileParsingString cs
  | _ + 1, acc, '"' :: rest => .ok (String.ofList acc.reverse, rest)
  | fuel + 1, acc, '\\' :: rest =>
    match rest with
    | c :: r =>
      if c = '"' then readStringChars fuel ('"' :: acc) r
      else if c = '\\' then readStringChars fuel ('\\' :: acc) r
      else if c = '/' then readStringChars fuel ('/' :: acc) r
      else if c = 'b' then readStringChars fuel ('\x08' :: acc) r
      else if c = 'f' then readStringChars fuel ('\x0c' :: acc) r
      else if c = 'n' then readStringChars fuel ('\n' :: acc) r
      else if c = 'r' then readStringChars fuel ('\r' :: acc) r
      else if c = 't' then readStringChars fuel ('\t' :: acc) r
      else if c = 'u' then
        match readHex4 r with
        | .error e => .error e
        | .ok (n, r) =>
          -- a trailing surrogate cannot start a pair
          if 0xDC00 ≤ n ∧ n ≤ 0xDFFF then failBefore .loneLeadingSurrogateInHexEscape r
          else if 0xD800 ≤ n ∧ n ≤ 0xDBFF then
            match r with
            | '\\' :: 'u' :: r2 =>
              match readHex4 r2 with
              | .error e => .error e
              | .ok (n2, r3) =>
                if 0xDC00 ≤ n2 ∧ n2 ≤ 0xDFFF then
                  readStringChars fuel
                    (Char.ofNat (0x10000 + (n - 0xD800) * 0x400 + (n2 - 0xDC00)) :: acc) r3
                else failBefore .loneLeadingSurrogateInHexEscape r3
            | '\\' :: [] => failInto .eofWhileParsingString []
            | '\\' :: r2 => failInto .unexpectedEndOfHexEscape r2
            | [] => failInto .eofWhileParsingString []
            | r => failInto .unexpectedEndOfHexEscape r
          else readStringChars fuel (Char.ofNat n :: acc) r
      else failInto .invalidEscape (c :: r)
    | [] => failInto .eofWhileParsingString []
  | fuel + 1, acc, c :: rest =>
    if c.toNat < 0x20 then failInto .controlCharacterWhileParsingString (c :: rest)
    else readStringChars fuel (c :: acc) rest
  | _ + 1, _, [] => failInto .eofWhileParsingString []

/-- A string after its opening quote. -/
def readString (cs : List Char) : Step String :=
  readStringChars (cs.length + 1) [] cs

/-- How deep arrays and objects may nest. -/
def depthLimit : Nat := 128

mutual

/-- A value, after blanks. `fuel` bounds the recursion by the length of the text. -/
def readValue : Nat → Nat → List Char → Step Json
  | 0, _, cs => failInto .recursionLimitExceeded cs
  | fuel + 1, depth, cs =>
    match skipBlank cs with
    | [] => failInto .eofWhileParsingValue []
    | c :: rest =>
      if c = 'n' then literal ['u', 'l', 'l'] .null rest
      else if c = 't' then literal ['r', 'u', 'e'] (.bool true) rest
      else if c = 'f' then literal ['a', 'l', 's', 'e'] (.bool false) rest
      else if c = '-' then (readNumber true rest).map fun (n, r) => (.number n, r)
      else if c.isDigit then (readNumber false (c :: rest)).map fun (n, r) => (.number n, r)
      else if c = '"' then (readString rest).map fun (s, r) => (.string s, r)
      else if c = '[' then
        if depth + 1 ≥ depthLimit then failInto .recursionLimitExceeded (c :: rest)
        else
          match skipBlank rest with
          | ']' :: r => .ok (.array [], r)
          | [] => failInto .eofWhileParsingList []
          | r => readItems fuel (depth + 1) [] r
      else if c = '{' then
        if depth + 1 ≥ depthLimit then failInto .recursionLimitExceeded (c :: rest)
        else
          match skipBlank rest with
          | '}' :: r => .ok (.object [], r)
          | '"' :: r => readMembers fuel (depth + 1) [] r
          | [] => failInto .eofWhileParsingObject []
          | r => failInto .keyMustBeAString r
      else failInto .expectedSomeValue (c :: rest)

/-- Items of an array after `[`, each followed by `,` or `]`. -/
def readItems : Nat → Nat → List Json → List Char → Step Json
  | 0, _, _, cs => failInto .recursionLimitExceeded cs
  | fuel + 1, depth, acc, cs =>
    match readValue fuel depth cs with
    | .error e => .error e
    | .ok (v, rest) =>
      match skipBlank rest with
      | ']' :: r => .ok (.array (v :: acc).reverse, r)
      | ',' :: r =>
        match skipBlank r with
        | ']' :: r' => failInto .trailingComma (']' :: r')
        | [] => failInto .eofWhileParsingValue []
        | r' => readItems fuel depth (v :: acc) r'
      | [] => failInto .eofWhileParsingList []
      | r => failInto .expectedListCommaOrEnd r

/-- Members of an object, starting after the opening quote of a key. -/
def readMembers : Nat → Nat → List (String × Json) → List Char → Step Json
  | 0, _, _, cs => failInto .recursionLimitExceeded cs
  | fuel + 1, depth, acc, cs =>
    match readString cs with
    | .error e => .error e
    | .ok (key, rest) =>
      match skipBlank rest with
      | ':' :: r =>
        match readValue fuel depth r with
        | .error e => .error e
        | .ok (v, rest) =>
          let acc := Json.insertField key v acc
          match skipBlank rest with
          | '}' :: r => .ok (.object acc, r)
          | ',' :: r =>
            match skipBlank r with
            | '"' :: r' => readMembers fuel depth acc r'
            | '}' :: r' => failInto .trailingComma ('}' :: r')
            | [] => failInto .eofWhileParsingValue []
            | r' => failInto .keyMustBeAString r'
          | [] => failInto .eofWhileParsingObject []
          | r => failInto .expectedObjectCommaOrEnd r
      | [] => failInto .eofWhileParsingObject []
      | r => failInto .expectedColon r

end

/-- Line (from 1) and column of the point `left` bytes before the end of a text given as
its bytes: the line counts the line feeds before the point, and the column the bytes
between the last of them and the point. -/
def position (bytes : List UInt8) (left : Nat) : Nat × Nat :=
  let before := bytes.take (bytes.length - left)
  (1 + before.count 10, (before.reverse.takeWhile (· ≠ 10)).length)

end JsonReader

namespace Json

open JsonReader in
/-- Read a JSON text: one value, optionally surrounded by blanks. -/
def parse (text : String) : Except ParseError Json :=
  let cs := text.toList
  let fail (f : Failure) : Except ParseError Json :=
    let (line, column) := position text.toUTF8.toList f.left
    .error ⟨f.code, line, column⟩
  match readValue (cs.length + 1) 0 cs with
  | .error f => fail f
  | .ok (v, rest) =>
    match skipBlank rest with
    | [] => .ok v
    | c :: r => fail ⟨.trailingCharacters, c.utf8Size - 1 + byteLength r⟩

end Json

end MusicProviders
