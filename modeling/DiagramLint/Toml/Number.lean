import DiagramLint.Text.Digits
import DiagramLint.Toml.Value

/-!
# TOML numbers

An integer is decimal with an optional sign, or hexadecimal, octal or binary with a
prefix and no sign.  A float is decimal and has a fraction, an exponent, or both;
`inf` and `nan` are floats too.  An underscore may stand between two digits, and no
decimal integer part starts with a zero unless it is zero.

A word can have the form of an integer and no value: a prefix without digits, or a
decimal integer with underscores in which other characters stand behind the first of
these (`hasIntegerForm`).  Such a number is `unreadable`, which is an error only
where it is used.

Integers are read exactly, whatever their size.  Floats are rounded to the nearest
double; `decimalFloat` keeps powers of ten out of reach that would not change the
answer.
-/

namespace DiagramLint.Toml

/-- The digits of a run with underscores between them. -/
def digits? (isDigit : Char → Bool) (t : Text) : Option Text :=
  let parts := t.splitOn '_'
  if parts.all fun part => part ≠ [] && part.all isDigit then some parts.flatten else none

def isOctalDigit (c : Char) : Bool := '0' ≤ c && c ≤ '7'

def isBinaryDigit (c : Char) : Bool := c = '0' || c = '1'

/-- The integer behind a prefix. -/
def basedInteger? (base : Nat) (isDigit : Char → Bool) : Text → Option Value
  | [] => some .unreadable
  | t => (digits? isDigit t).map fun ds => .integer (Text.digitsValue base ds)

/-- The integer of a base with a prefix. -/
def prefixedInteger? : Text → Option Value
  | '0' :: 'x' :: t => basedInteger? 16 Text.isHexDigit t
  | '0' :: 'o' :: t => basedInteger? 8 isOctalDigit t
  | '0' :: 'b' :: t => basedInteger? 2 isBinaryDigit t
  | _ => none

/-- The sign of a number. -/
inductive Sign where
  | plus
  | minus
  deriving DecidableEq, Repr

/-- The sign at the front, a plus if there is none, and what follows it. -/
def sign : Text → Sign × Text
  | '-' :: t => (.minus, t)
  | '+' :: t => (.plus, t)
  | t => (.plus, t)

def Sign.onInt (s : Sign) (n : Nat) : Int := if s = .minus then -n else n

def Sign.onFloat (s : Sign) (x : Float) : Float := if s = .minus then -x else x

/-- The largest power of ten that matters to a double with few digits. -/
def decimalReach : Int := 400

/-- The double nearest to `digits * 10 ^ exponent`; it is unreadable when no double is
that large. -/
def decimalFloat (s : Sign) (digits : Nat) (exponent : Int) : Value :=
  let magnitude := exponent + (Nat.toDigits 10 digits).length
  if digits = 0 ∨ magnitude < -decimalReach then .float (s.onFloat 0)
  else if magnitude > decimalReach then .unreadable
  else
    let x := Float.ofScientific digits (exponent < 0) exponent.natAbs
    if x.isFinite then .float (s.onFloat x) else .unreadable

/-- The digits in front of the point or the exponent of a float: no zero stands in front
of others. -/
def wholeDigits? (t : Text) : Option Text :=
  (digits? Char.isDigit t).filter fun ds => ds.length = 1 || ds.head? ≠ some '0'

def isExponentMark (c : Char) : Bool := c = 'e' || c = 'E'

/-- The digits of the fraction at the front, none when there is no point; also
returns what follows. -/
def fraction? : Text → Option (Option Text × Text)
  | '.' :: t => do
      let digits ← digits? Char.isDigit (t.takeWhile fun c => !isExponentMark c)
      return (some digits, t.dropWhile fun c => !isExponentMark c)
  | t => some (none, t)

/-- The exponent that the whole text writes, none when it is empty. -/
def exponent? : Text → Option (Option Int)
  | [] => some none
  | c :: t => do
      guard (isExponentMark c)
      let (s, t) := sign t
      let digits ← digits? Char.isDigit t
      return some (s.onInt (Text.digitsValue 10 digits))

/-- Whether a character ends the whole part of a float. -/
def endsWhole (c : Char) : Bool := c = '.' || isExponentMark c

/-- The float that the whole text writes behind its sign. -/
def float? (s : Sign) (t : Text) : Option Value := do
  let whole ← wholeDigits? (t.takeWhile fun c => !endsWhole c)
  let (fraction, t) ← fraction? (t.dropWhile fun c => !endsWhole c)
  let exponent ← exponent? t
  let fraction := fraction.getD []
  return decimalFloat s (Text.digitsValue 10 (whole ++ fraction))
    (exponent.getD 0 - fraction.length)

/-- Whether the parts behind the first underscore of a text meet their underscores with
hexadecimal digits. -/
def digitsAtUnderscores : List Text → Bool
  | [] => true
  | [last] => last.head?.any Text.isHexDigit
  | part :: parts =>
      part.head?.any Text.isHexDigit && part.getLast?.any Text.isHexDigit &&
        digitsAtUnderscores parts

/-- Whether a text has the form of a decimal integer, of which `first` and `parts` are
the parts between the underscores: the first has digits and nothing else, and starts
with a zero only if that is the whole text. -/
def hasIntegerForm (first : Text) (parts : List Text) : Bool :=
  first ≠ [] && first.all Char.isDigit &&
    (first.head? ≠ some '0' || (first.length = 1 && parts = [])) && digitsAtUnderscores parts

/-- The decimal integer that the whole text writes behind its sign. -/
def integer? (s : Sign) (t : Text) : Option Value :=
  match t.splitOn '_' with
  | [] => none
  | first :: parts =>
      let digits := first ++ parts.flatten
      if hasIntegerForm first parts then
        if digits.all Char.isDigit then some (.integer (s.onInt (Text.digitsValue 10 digits)))
        else some .unreadable
      else none

/-- The decimal number that the whole text writes behind its sign. -/
def decimal? (s : Sign) (t : Text) : Option Value :=
  if t.any endsWhole then float? s t else integer? s t

def number? (t : Text) : Option Value :=
  match sign t with
  | (s, ['i', 'n', 'f']) => some (.float (s.onFloat (1 / 0)))
  | (_, ['n', 'a', 'n']) => some (.float (0 / 0))
  | (s, rest) => (prefixedInteger? t).or (decimal? s rest)

end DiagramLint.Toml
