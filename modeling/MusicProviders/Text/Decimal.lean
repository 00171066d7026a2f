/-! # Decimal integers in text

Reading integers the way vendor ids and counters are written: an optional sign, then
one or more ASCII digits, nothing else, and a value in the 64-bit range.

* `parseU64?` — an optional `+`, digits, at most `2 ^ 64 - 1`.
* `parseI64?` — an optional `+` or `-`, digits, within `-2 ^ 63 .. 2 ^ 63 - 1`.
-/

namespace MusicProviders

namespace Text

/-- The value of a non-empty list of ASCII digits. -/
def digitsValue? (cs : List Char) : Option Nat :=
  if cs.isEmpty || !cs.all Char.isDigit then none
  else some (cs.foldl (fun acc c => 10 * acc + (c.toNat - '0'.toNat)) 0)

/-- An unsigned 64-bit integer: an optional plus sign and digits. -/
def parseU64? (s : String) : Option Nat :=
  let digits := match s.toList with
    | '+' :: rest => rest
    | cs => cs
  (digitsValue? digits).filter (· < Nat.pow 2 64)

/-- A signed 64-bit integer: an optional sign and digits. -/
def parseI64? (s : String) : Option Int :=
  let (negative, digits) := match s.toList with
    | '+' :: rest => (false, rest)
    | '-' :: rest => (true, rest)
    | cs => (false, cs)
  (digitsValue? digits).bind fun n =>
    let v : Int := if negative then -(n : Int) else n
    if -Int.pow 2 63 ≤ v ∧ v < Int.pow 2 63 then some v else none

end Text

end MusicProviders
