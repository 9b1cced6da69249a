import DiagramLint.Decimal.Binary

/-!
# Shortest decimals

Of the decimals that read back as a given double, the shortest one is written: the
one on the coarsest grid `10 ^ k`, and on that grid the one nearest to the double,
the upper of two that are equally near.  The decimals that read back are those
between the double and its neighbours, up to the half-way points; the half-way
points themselves belong to a double whose mantissa is even.

The search compares multiples of a power of two with multiples of a power of ten
in natural numbers.  It starts at a grid too coarse to have a point in range and
refines it; seventeen digits always suffice.
-/

namespace DiagramLint

/-- The decimal `digits * 10 ^ exponent`. -/
structure Decimal where
  digits : Nat
  /-- The power of ten of the last digit. -/
  exponent : Int
  deriving DecidableEq, Repr

namespace Decimal

/-- A power with an integral exponent, as numerator and denominator. -/
def powerRatio (base : Nat) (exponent : Int) : Nat × Nat :=
  (base.pow exponent.toNat, base.pow (-exponent).toNat)

/-- The range of the reals that read back as `mantissa * 2 ^ exponent`, in quarters
of the last bit: the ends, and whether they belong to it. -/
structure ReadBack where
  low : Nat
  value : Nat
  high : Nat
  closed : Bool

/-- The range of a double.  Below a power of two the doubles lie twice as dense. -/
def ReadBack.of (mantissa : Nat) (exponent : Int) : ReadBack where
  low :=
    if mantissa = Nat.pow 2 Binary.fractionBits ∧ exponent ≠ Binary.leastExponent then
      4 * mantissa - 1
    else 4 * mantissa - 2
  value := 4 * mantissa
  high := 4 * mantissa + 2
  closed := mantissa % 2 = 0

/-- The nearest point in range of the grid whose step is `step`, where a quarter of
the last bit is `unit`. -/
def ReadBack.onGrid? (r : ReadBack) (unit step : Nat) : Option Nat :=
  let below := r.value * unit / step
  let above := below + 1
  let low := if r.closed then r.low * unit ≤ below * step else r.low * unit < below * step
  let high := if r.closed then above * step ≤ r.high * unit else above * step < r.high * unit
  if below ≠ 0 ∧ low then
    if high ∧ 2 * (r.value * unit % step) ≥ step then some above else some below
  else if high then some above
  else none

/-- The first grid from `10 ^ k` on that has a point in range, refined at most
`fuel` times. -/
def ReadBack.search (r : ReadBack) (exponent : Int) : Nat → Int → Decimal
  | 0, k => ⟨0, k⟩
  | fuel + 1, k =>
      let (up, down) := powerRatio 2 (exponent - 2)
      let (tens, tenths) := powerRatio 10 k
      match r.onGrid? (up * tenths) (tens * down) with
      | some digits => ⟨digits, k⟩
      | none => r.search exponent fuel (k - 1)

/-- The decimal without the zeros its digits end with. -/
def dropZeros : Nat → Decimal → Decimal
  | 0, d => d
  | fuel + 1, d =>
      if d.digits % 10 = 0 ∧ d.digits ≠ 0 then dropZeros fuel ⟨d.digits / 10, d.exponent + 1⟩
      else d

/-- The power of ten above `mantissa * 2 ^ exponent` at which the search starts. -/
def coarsest (mantissa : Nat) (exponent : Int) : Int :=
  (Nat.log2 mantissa + 1 + exponent) * 3 / 10 + 2

/-- The number of grids that the search may try. -/
def gridCount : Nat := 24

/-- The shortest decimal that reads back as `mantissa * 2 ^ exponent`. -/
def shortest (mantissa : Nat) (exponent : Int) : Decimal :=
  if mantissa = 0 then ⟨0, 0⟩
  else
    dropZeros gridCount
      ((ReadBack.of mantissa exponent).search exponent gridCount (coarsest mantissa exponent))

end Decimal

end DiagramLint
