import DiagramLint.Text.Blank

/-!
# Digits

A run of digits writes a natural number in a base, the first digit counting most.
Behind nine the letters go on as digits, in either case.
-/

namespace DiagramLint.Text

def isHexDigit (c : Char) : Bool :=
  c.isDigit || ('a' ≤ c && c ≤ 'f') || ('A' ≤ c && c ≤ 'F')

def digitValue (d : Char) : Nat :=
  if d.isDigit then d.toNat - '0'.toNat else d.toLower.toNat - 'a'.toNat + 10

/-- The value of a run of digits in a base. -/
def digitsValue (base : Nat) (digits : Text) : Nat :=
  digits.foldl (fun n d => base * n + digitValue d) 0

end DiagramLint.Text
