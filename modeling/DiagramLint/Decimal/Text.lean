import DiagramLint.Decimal.Rounding
import DiagramLint.Decimal.Shortest

/-!
# Numbers in messages

Messages write doubles without exponents.  `numberText` gives the shortest decimal
that reads back, with as many places as it needs and no point when it needs none;
`fixedText` gives a number of places, the exact value being rounded to the nearest
decimal and to the even one of two.  Both keep the sign of zero, and both write
`inf`, `-inf` and `NaN` for what is not finite.

`roundHalfUp` is the rounding of displayed values: to a number of places, halves
going up, in the arithmetic of doubles.
-/

namespace DiagramLint

/-- The number `digits / 10 ^ places`, with exactly that many places. -/
def placesText (digits places : Nat) : String :=
  let scale := Nat.pow 10 places
  let whole := toString (digits / scale)
  if places = 0 then whole
  else
    let part := Nat.toDigits 10 (digits % scale)
    whole ++ "." ++ String.ofList (List.replicate (places - part.length) '0' ++ part)

/-- The decimal in positional notation. -/
def Decimal.text (d : Decimal) : String :=
  placesText (d.digits * Nat.pow 10 d.exponent.toNat) (-d.exponent).toNat

/-- A sign in front of a number that is negative. -/
def signed (negative : Bool) (text : String) : String := if negative then "-" ++ text else text

/-- A double in the fewest digits that read back. -/
def numberText (x : Float) : String :=
  match Binary.ofFloat x with
  | .nan => "NaN"
  | .infinite negative => signed negative "inf"
  | .finite negative mantissa exponent =>
      signed negative (Decimal.shortest mantissa exponent).text

/-- A double with a fixed number of places. -/
def fixedText (x : Float) (places : Nat) : String :=
  match Binary.ofFloat x with
  | .nan => "NaN"
  | .infinite negative => signed negative "inf"
  | .finite negative mantissa exponent =>
      let (up, down) := Decimal.powerRatio 2 exponent
      signed negative (placesText (nearestEven (mantissa * up * Nat.pow 10 places) down) places)

/-- A double rounded to a number of places, halves going up. -/
def roundHalfUp (x : Float) (places : Nat) : Float :=
  let scale := (Nat.pow 10 places).toFloat
  (x * scale + 0.5).floor / scale

/-- A double as a 64-bit integer: cut toward zero and held within the range, zero
for what is not a number. -/
def saturatedInt (x : Float) : Int := x.toInt64.toInt

end DiagramLint
