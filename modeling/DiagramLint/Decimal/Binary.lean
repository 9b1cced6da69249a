/-!
# Binary fractions

A double is a sign and a natural number times a power of two, or infinite, or not
a number.  `Binary.ofFloat` reads these parts off the bits, so that the decimal
forms of a double can be worked out in exact arithmetic.
-/

namespace DiagramLint

/-- The parts of a double. -/
inductive Binary where
  | nan
  | infinite (negative : Bool)
  /-- The number `mantissa * 2 ^ exponent` with a sign; zero has a sign too. -/
  | finite (negative : Bool) (mantissa : Nat) (exponent : Int)
  deriving DecidableEq, Repr

namespace Binary

/-- The number of bits of the mantissa that are stored. -/
def fractionBits : Nat := 52

/-- The exponent field of infinities and of what is not a number. -/
def topExponent : Nat := 2047

/-- The exponent of the last bit of the smallest numbers. -/
def leastExponent : Int := -1074

/-- The parts of the double with the given bits.  Unless the exponent field is
zero, a leading one that is not stored belongs to the mantissa. -/
def ofBits (bits : Nat) : Binary :=
  let leading := Nat.pow 2 fractionBits
  let negative := bits / Nat.pow 2 63 % 2 = 1
  let field := bits / leading % (topExponent + 1)
  let fraction := bits % leading
  if field = topExponent then
    if fraction = 0 then infinite negative else nan
  else if field = 0 then finite negative fraction leastExponent
  else finite negative (leading + fraction) (leastExponent + (field - 1 : Nat))

/-- The parts of a double. -/
def ofFloat (x : Float) : Binary := ofBits x.toBits.toNat

end Binary

end DiagramLint
