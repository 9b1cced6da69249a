/-!
# Rounding quotients

`nearestEven num den` is the natural number nearest to `num / den`; when two are
equally near it is the even one.
-/

namespace DiagramLint

/-- The natural number nearest to a quotient, the even one of two. -/
def nearestEven (num den : Nat) : Nat :=
  let low := num / den
  let twice := 2 * (num % den)
  if twice < den ∨ (twice = den ∧ low % 2 = 0) then low else low + 1

end DiagramLint
