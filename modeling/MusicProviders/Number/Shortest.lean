import MusicProviders.Number.Binary64

/-! # Shortest decimal text of a double

A finite double is written with the fewest significant digits that read back to
the same double, and among those with the digits nearest to its exact value; an exact
tie between two candidates goes to the even one or to the upper one, by style.

* `Binary64.shortest` — the digits and the power of ten, found by testing, for one
  significant digit after another, the two neighbours of the exact value on the
  decimal grid of that precision, in exact natural-number arithmetic.
* `FloatStyle` — where positional notation gives way to an exponent, how the exponent
  is signed and how ties are broken; `FloatStyle.json` (also used inside decoding
  errors) and `FloatStyle.debug` are the two styles the library writes.
* `Binary64.render` — the text of a finite value in a style.
-/

namespace MusicProviders

/-- A decimal number `digits * 10 ^ exponent`. -/
structure Decimal where
  digits : Nat
  exponent : Int
deriving DecidableEq, Repr, Inhabited

namespace Decimal

/-- Number of decimal digits of `n`, with `0` counted as one digit. -/
def digitCount (n : Nat) : Nat :=
  (Nat.toDigits 10 n).length

/-- Drop trailing zero digits, moving them into the exponent. -/
def normalize (d : Decimal) : Decimal :=
  go (d.digits.log2 + 1) d
where
  go : Nat → Decimal → Decimal
    | 0, d => d
    | fuel + 1, d =>
      if d.digits ≠ 0 ∧ d.digits % 10 = 0 then go fuel ⟨d.digits / 10, d.exponent + 1⟩ else d

end Decimal

/-- A positive rational `num / den` compared with `c * 10 ^ d`: the sign of
`c * 10 ^ d - num / den` as an ordering. -/
def compareScaled (c : Nat) (d : Int) (num den : Nat) : Ordering :=
  let lhs := c * Nat.pow 10 d.toNat * den
  let rhs := num * Nat.pow 10 (-d).toNat
  compare lhs rhs

namespace Binary64

/-- The exact value of a finite double's magnitude and the two ends of the interval of
reals that read back to it, all as numerators over the common denominator `den`:
`(value, low, high, den)`. -/
def roundingInterval (x : Binary64) : Nat × Nat × Nat × Nat :=
  let m := x.mantissa
  let s : Int := x.exponent - 2
  let scale := if 0 ≤ s then Nat.pow 2 s.toNat else 1
  let den := if 0 ≤ s then 1 else Nat.pow 2 (-s).toNat
  -- at the bottom of a binade the gap below is half the gap above
  let lowGap := if x.fraction = 0 ∧ x.biasedExponent > 1 then 1 else 2
  (4 * m * scale, (4 * m - lowGap) * scale, (4 * m + 2) * scale, den)

/-- The largest `t` with `10 ^ t ≤ num / den`, for positive `num` and `den`. -/
def log10Ratio (num den : Nat) : Int :=
  let t : Int := (Decimal.digitCount num : Int) - (Decimal.digitCount den : Int)
  -- `num / den ≥ 10 ^ t` exactly when `num * 10^(-t) ≥ den * 10^t`
  if num * Nat.pow 10 (-t).toNat ≥ den * Nat.pow 10 t.toNat then t else t - 1

/-- Whether `c * 10 ^ d` lies in the rounding interval `[low, high] / den`, with the ends
included when `closed`. -/
def inInterval (closed : Bool) (low high den c : Nat) (d : Int) : Bool :=
  let aboveLow := match compareScaled c d low den with
    | .lt => false
    | .eq => closed
    | .gt => true
  let belowHigh := match compareScaled c d high den with
    | .lt => true
    | .eq => closed
    | .gt => false
  aboveLow && belowHigh

/-- The nearer of two grid neighbours `lo * 10^d` and `(lo + 1) * 10^d` of `value / den`;
an exact tie goes to the upper one when `tiesUp`, else to the even one. -/
def nearerNeighbour (tiesUp : Bool) (lo : Nat) (d : Int) (value den : Nat) : Nat :=
  -- compare `value / den - lo * 10^d` with `(lo + 1) * 10^d - value / den`,
  -- i.e. `2 * value / den` with `(2 * lo + 1) * 10^d`
  match compareScaled (2 * lo + 1) d (2 * value) den with
  | .gt => lo
  | .lt => lo + 1
  | .eq => if tiesUp || lo % 2 = 1 then lo + 1 else lo

/-- The search for the shortest decimal in the rounding interval `[low, high] / den` of
`value / den`, whose leading digit has weight `10 ^ t`: `n` significant digits are tried
while `fuel` lasts; seventeen always suffice for a double. -/
def shortestSearch (tiesUp closed : Bool) (value low high den : Nat) (t : Int) :
    Nat → Nat → Decimal
  | 0, _ => ⟨0, 0⟩
  | fuel + 1, n =>
    let d : Int := t - (n : Int) + 1
    -- `lo = floor (value / den / 10^d)`
    let lo := value * Nat.pow 10 (-d).toNat / (den * Nat.pow 10 d.toNat)
    let loIn := inInterval closed low high den lo d
    let hiIn := inInterval closed low high den (lo + 1) d
    if loIn && hiIn then Decimal.normalize ⟨nearerNeighbour tiesUp lo d value den, d⟩
    else if loIn then Decimal.normalize ⟨lo, d⟩
    else if hiIn then Decimal.normalize ⟨lo + 1, d⟩
    else if n ≥ 17 then Decimal.normalize ⟨nearerNeighbour tiesUp lo d value den, d⟩
    else shortestSearch tiesUp closed value low high den t fuel (n + 1)

/-- The shortest decimal of a finite, non-zero double's magnitude, nearest to its value
among the shortest, ties broken as `tiesUp` says. -/
def shortestMagnitude (tiesUp : Bool) (x : Binary64) : Decimal :=
  let (value, low, high, den) := x.roundingInterval
  shortestSearch tiesUp (x.mantissa % 2 = 0) value low high den (log10Ratio value den) 17 1

/-- The shortest decimal of a finite double's magnitude; zero for either zero. -/
def shortest (tiesUp : Bool) (x : Binary64) : Decimal :=
  if x.isZero then ⟨0, 0⟩ else x.shortestMagnitude tiesUp

end Binary64

/-- The decisions of one way of writing doubles: positional notation is used when the
position `kk` of the decimal point (`10 ^ (kk - 1) ≤ |x| < 10 ^ kk`) satisfies
`positionalAbove < kk ≤ positionalUpTo`, integers in positional notation keep a `.0`,
a non-negative exponent carries a plus sign when `plusExponent`, and a tie between two
shortest candidates goes up when `tiesUp`, else to the even one. -/
structure FloatStyle where
  positionalAbove : Int
  positionalUpTo : Int
  plusExponent : Bool
  tiesUp : Bool
deriving Repr

namespace FloatStyle

/-- The style of JSON numbers and of numbers quoted in decoding errors: positional from
`0.00001` up to below `10 ^ 16`, otherwise `1e+16`, `1.5e-7`; ties to even. -/
def json : FloatStyle := ⟨-5, 16, true, false⟩

/-- The style of diagnostic dumps: positional from `0.0001` up to below `10 ^ 16`,
otherwise `1e16`, `1.5e-5`; ties up, so the double `1561566300816234.25`, halfway
between two seventeen-digit candidates, shows as `1561566300816234.3`. -/
def debug : FloatStyle := ⟨-4, 16, false, true⟩

end FloatStyle

/-- `n` zero characters. -/
def zeros (n : Nat) : String := String.ofList (List.replicate n '0')

/-- The text of a non-negative decimal in a style; the digits carry no trailing zeros. -/
def Decimal.render (style : FloatStyle) (d : Decimal) : String :=
  if d.digits = 0 then "0.0"
  else
    let ds := String.ofList (Nat.toDigits 10 d.digits)
    let len : Int := ds.length
    let kk := len + d.exponent
    if style.positionalAbove < kk ∧ kk ≤ style.positionalUpTo then
      if 0 ≤ d.exponent then ds ++ zeros d.exponent.toNat ++ ".0"
      else if 0 < kk then
        String.ofList (ds.toList.take kk.toNat) ++ "." ++ String.ofList (ds.toList.drop kk.toNat)
      else "0." ++ zeros (-kk).toNat ++ ds
    else
      let head := String.ofList (ds.toList.take 1)
      let tail := String.ofList (ds.toList.drop 1)
      let mant := if tail.isEmpty then head else head ++ "." ++ tail
      let e := kk - 1
      let sign := if e < 0 then "-" else if style.plusExponent then "+" else ""
      mant ++ "e" ++ sign ++ toString e.natAbs

namespace Binary64

/-- The text of a double in a style: the shortest decimal with its sign, and `NaN`,
`inf` or `-inf` for the values that are not finite. -/
def render (style : FloatStyle) (x : Binary64) : String :=
  if x.isNaN then "NaN"
  else if !x.isFinite then (if x.sign then "-inf" else "inf")
  else (if x.sign then "-" else "") ++ (x.shortest style.tiesUp).render style

end Binary64

end MusicProviders
