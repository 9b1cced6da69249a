import DiagramLint.Text.Digits
import DiagramLint.Toml.Scan

/-!
# TOML strings

A string is quoted with double quotes, and then has escapes, or with single quotes,
and then has none.  Three quotes open a string that may run over several lines; a
newline directly behind them does not belong to it, and up to two quotes may stand
in front of the three that close it.  In such a string with escapes, a backslash at
the end of a line takes away the newline and all blanks behind it.
-/

namespace DiagramLint.Toml

/-- The character whose code point some hexadecimal digits write. -/
def codePoint? (digits : Text) : Option Char :=
  let n := Text.digitsValue 16 digits
  if digits.all Text.isHexDigit ∧ n.isValidChar then some (Char.ofNat n) else none

/-- The character that an escape of one letter stands for. -/
def escape? : Char → Option Char
  | 'b' => some '\x08'
  | 't' => some '\t'
  | 'n' => some '\n'
  | 'f' => some '\x0c'
  | 'r' => some '\r'
  | 'e' => some '\x1b'
  | '\x22' => some '\x22'
  | '\x5c' => some '\x5c'
  | _ => none

/-- A text in front of one that was read. -/
def onto (front : Text) : Option (Text × Text) → Option (Text × Text) :=
  Option.map fun (t, rest) => (front ++ t, rest)

/-- A character that was read in front of a text that was read. -/
def ontoChar (front : Option Char) (read : Option (Text × Text)) : Option (Text × Text) :=
  front.bind fun c => onto [c] read

def readBasic : Text → Option (Text × Text)
  | [] => none
  | '\x22' :: t => some ([], t)
  | '\x5c' :: 'x' :: a :: b :: t => ontoChar (codePoint? [a, b]) (readBasic t)
  | '\x5c' :: 'u' :: a :: b :: c :: d :: t =>
      ontoChar (codePoint? [a, b, c, d]) (readBasic t)
  | '\x5c' :: 'U' :: a :: b :: c :: d :: e :: f :: g :: h :: t =>
      ontoChar (codePoint? [a, b, c, d, e, f, g, h]) (readBasic t)
  | '\x5c' :: c :: t => ontoChar (escape? c) (readBasic t)
  | c :: t => if isPlain c then onto [c] (readBasic t) else none

def readLiteral : Text → Option (Text × Text)
  | [] => none
  | '\x27' :: t => some ([], t)
  | c :: t => if isPlain c then onto [c] (readLiteral t) else none

/-- Whether nothing but spaces stands in front of the next newline. -/
def endsLine (t : Text) : Bool := (newline? (skipSpaces t)).isSome

/-- Reads the rest of a string in three double quotes; `skipping` while a backslash
at the end of a line takes blanks away. -/
def readLongBasic (skipping : Bool) : Text → Option (Text × Text)
  | [] => none
  | '\x22' :: '\x22' :: '\x22' :: '\x22' :: '\x22' :: t =>
      some (['\x22', '\x22'], t)
  | '\x22' :: '\x22' :: '\x22' :: '\x22' :: t => some (['\x22'], t)
  | '\x22' :: '\x22' :: '\x22' :: t => some ([], t)
  | '\r' :: '\n' :: t =>
      if skipping then readLongBasic true t else onto ['\r', '\n'] (readLongBasic false t)
  | '\n' :: t => if skipping then readLongBasic true t else onto ['\n'] (readLongBasic false t)
  | '\x5c' :: 'x' :: a :: b :: t => ontoChar (codePoint? [a, b]) (readLongBasic false t)
  | '\x5c' :: 'u' :: a :: b :: c :: d :: t =>
      ontoChar (codePoint? [a, b, c, d]) (readLongBasic false t)
  | '\x5c' :: 'U' :: a :: b :: c :: d :: e :: f :: g :: h :: t =>
      ontoChar (codePoint? [a, b, c, d, e, f, g, h]) (readLongBasic false t)
  | '\x5c' :: c :: t =>
      if endsLine (c :: t) then readLongBasic true (c :: t)
      else ontoChar (escape? c) (readLongBasic false t)
  | c :: t =>
      if skipping && isSpace c then readLongBasic true t
      else if isPlain c then onto [c] (readLongBasic false t)
      else none

/-- Reads the rest of a string in three single quotes. -/
def readLongLiteral : Text → Option (Text × Text)
  | [] => none
  | '\x27' :: '\x27' :: '\x27' :: '\x27' :: '\x27' :: t =>
      some (['\x27', '\x27'], t)
  | '\x27' :: '\x27' :: '\x27' :: '\x27' :: t => some (['\x27'], t)
  | '\x27' :: '\x27' :: '\x27' :: t => some ([], t)
  | '\r' :: '\n' :: t => onto ['\r', '\n'] (readLongLiteral t)
  | '\n' :: t => onto ['\n'] (readLongLiteral t)
  | c :: t => if isPlain c then onto [c] (readLongLiteral t) else none

/-- The text behind a newline, if it starts with one. -/
def afterNewline (t : Text) : Text := (newline? t).getD t

/-- Reads the string that a text begins with. -/
def readString : Text → Option (Text × Text)
  | '\x22' :: '\x22' :: '\x22' :: t => readLongBasic false (afterNewline t)
  | '\x27' :: '\x27' :: '\x27' :: t => readLongLiteral (afterNewline t)
  | '\x22' :: t => readBasic t
  | '\x27' :: t => readLiteral t
  | _ => none

end DiagramLint.Toml
