/-! # Binary64 values by their bits

A double-precision number is kept as its 64 bits, so that reading, printing and
converting it are total functions on natural numbers that a proof can unfold.

* `Binary64` — the bits, with `sign`, `biasedExponent`, `fraction` and the
  exact finite value `mantissa * 2 ^ exponent`.
* `Binary64.ofScientific` — the double nearest to `digits * 10 ^ exp`, ties to the
  even mantissa, as a decimal reader must produce; `none` when it overflows.
* `Binary64.toInt64Saturating` — the integer part, clamped to the 64-bit signed range,
  with not-a-number sent to zero.
-/

namespace MusicProviders

/-- A double-precision binary floating-point number, given by its bit pattern. -/
structure Binary64 where
  bits : UInt64
deriving DecidableEq, Repr, Inhabited

namespace Binary64

/-- Number of stored fraction bits. -/
def fractionBits : Nat := 52

/-- The sign bit is set. -/
def sign (x : Binary64) : Bool := (x.bits >>> 63) == 1

/-- The 11-bit biased exponent field. -/
def biasedExponent (x : Binary64) : Nat := ((x.bits >>> 52) &&& 0x7FF).toNat

/-- The 52-bit fraction field. -/
def fraction (x : Binary64) : Nat := (x.bits &&& 0xFFFFFFFFFFFFF).toNat

/-- Neither infinite nor not-a-number. -/
def isFinite (x : Binary64) : Bool := x.biasedExponent != 0x7FF

/-- Not-a-number: all exponent bits set and a non-zero fraction. -/
def isNaN (x : Binary64) : Bool := x.biasedExponent == 0x7FF && x.fraction != 0

/-- Plus or minus zero. -/
def isZero (x : Binary64) : Bool := x.biasedExponent == 0 && x.fraction == 0

/-- The integer significand of a finite value: the fraction with its hidden bit. -/
def mantissa (x : Binary64) : Nat :=
  if x.biasedExponent = 0 then x.fraction else x.fraction + Nat.pow 2 fractionBits

/-- The power of two that scales `mantissa` to the finite value. -/
def exponent (x : Binary64) : Int :=
  if x.biasedExponent = 0 then -1074 else (x.biasedExponent : Int) - 1075

/-- Assemble a value from sign, biased exponent and fraction fields. -/
def ofFields (negative : Bool) (biased fraction : Nat) : Binary64 :=
  ⟨UInt64.ofNat ((if negative then Nat.pow 2 63 else 0) + biased % 2048 * Nat.pow 2 52 +
    fraction % Nat.pow 2 52)⟩

/-- Positive or negative zero. -/
def zero (negative : Bool) : Binary64 := ofFields negative 0 0

/-- `p / q` rounded to the nearest natural number, a tie going to the even one. -/
def roundDivEven (p q : Nat) : Nat :=
  let r := p % q
  let d := p / q
  if 2 * r < q then d
  else if 2 * r > q then d + 1
  else if d % 2 = 0 then d else d + 1

/-- `2 ^ k` as a rational scale: `(numerator, denominator)` for an integer `k`. -/
def powTwo (k : Int) : Nat × Nat :=
  if 0 ≤ k then (Nat.pow 2 k.toNat, 1) else (1, Nat.pow 2 (-k).toNat)

/-- The largest `k` with `2 ^ k ≤ p / q`, for positive `p` and `q`. -/
def log2Ratio (p q : Nat) : Int :=
  let k : Int := (Nat.log2 p : Int) - (Nat.log2 q : Int)
  let (a, b) := powTwo k
  -- `p / q ≥ 2 ^ k` exactly when `p * b ≥ q * a`
  if p * b ≥ q * a then k else k - 1

/-- The nearest double to the positive rational `p / q`, ties to even; `none` when the
nearest double would be infinite. -/
def ofRatio (negative : Bool) (p q : Nat) : Option Binary64 :=
  if p = 0 then some (zero negative)
  else
    let k := log2Ratio p q
    let e : Int := max (k - 52) (-1074)
    -- `m` is `p / q / 2 ^ e` rounded to the nearest integer
    let (a, b) := powTwo (-e)
    let m := roundDivEven (p * a) (q * b)
    let (m, e) := if m = Nat.pow 2 53 then (Nat.pow 2 52, e + 1) else (m, e)
    if e > 971 then none
    else if m < Nat.pow 2 52 then some (ofFields negative 0 m)
    else some (ofFields negative (e + 1075).toNat (m - Nat.pow 2 52))

/-- The nearest double to `digits * 10 ^ exp`, or `none` on overflow. -/
def ofScientific (negative : Bool) (digits : Nat) (exp : Int) : Option Binary64 :=
  if 0 ≤ exp then ofRatio negative (digits * Nat.pow 10 exp.toNat) 1
  else ofRatio negative digits (Nat.pow 10 (-exp).toNat)

/-- The magnitude of a finite value as a fraction `(numerator, denominator)`. -/
def magnitude (x : Binary64) : Nat × Nat :=
  let (a, b) := powTwo x.exponent
  (x.mantissa * a, b)

/-- The correctly rounded product of two finite values; `none` when it overflows. -/
def mul (x y : Binary64) : Option Binary64 :=
  let (p, q) := x.magnitude
  let (r, s) := y.magnitude
  ofRatio (x.sign != y.sign) (p * r) (q * s)

/-- The correctly rounded quotient of a finite value by a finite non-zero one. -/
def div (x y : Binary64) : Option Binary64 :=
  let (p, q) := x.magnitude
  let (r, s) := y.magnitude
  if r = 0 then none else ofRatio (x.sign != y.sign) (p * s) (q * r)

/-- The double with the other sign. -/
def neg (x : Binary64) : Binary64 := ⟨x.bits ^^^ 0x8000000000000000⟩

/-- The double nearest to an integer (always finite for integers below `2 ^ 1024`). -/
def ofInt (n : Int) : Binary64 :=
  (ofScientific (n < 0) n.natAbs 0).getD (zero (n < 0))

/-- The integer part of a finite value, toward zero. -/
def truncate (x : Binary64) : Int :=
  let m := x.mantissa
  let e := x.exponent
  let magnitude : Nat := if 0 ≤ e then m * Nat.pow 2 e.toNat else m / Nat.pow 2 (-e).toNat
  if x.sign then -(magnitude : Int) else magnitude

/-- Conversion to a signed 64-bit integer: toward zero, clamped to the range, and zero
for not-a-number; an infinity clamps like a huge finite value. -/
def toInt64Saturating (x : Binary64) : Int :=
  if x.isNaN then 0
  else if !x.isFinite then (if x.sign then -Int.pow 2 63 else Int.pow 2 63 - 1)
  else max (-Int.pow 2 63) (min (Int.pow 2 63 - 1) x.truncate)

end Binary64

end MusicProviders
