import DiagramLint.Text.Blank

/-!
# The lexical ground of TOML

Spaces are blanks and tabs, a newline is a line feed with or without a carriage
return, and a comment runs from `#` to the end of its line.  No other control
character may stand anywhere outside the newlines: what a comment or a string stops
at stays in front of the reader and makes it fail there.
-/

namespace DiagramLint.Toml

/-- Whether a character is a space within a line. -/
def isSpace (c : Char) : Bool := c = ' ' || c = '\t'

/-- Whether a character may stand in comments and strings: all but the control
characters, tabs excepted. -/
def isPlain (c : Char) : Bool := c = '\t' || (' ' ≤ c && c ≠ '\x7f')

/-- The text behind the spaces it starts with. -/
def skipSpaces (t : Text) : Text := t.dropWhile isSpace

/-- The text behind the newline it starts with. -/
def newline? : Text → Option Text
  | '\n' :: t => some t
  | '\r' :: '\n' :: t => some t
  | _ => none

/-- The text behind the spaces and the comment it starts with. -/
def skipRemark (t : Text) : Text :=
  match skipSpaces t with
  | '#' :: t => t.dropWhile isPlain
  | t => t

/-- The text behind the spaces, comments and newlines it starts with, at most
`fuel` of the latter. -/
def skipLines : Nat → Text → Text
  | 0, t => t
  | fuel + 1, t =>
      match newline? (skipRemark t) with
      | some rest => skipLines fuel rest
      | none => skipRemark t

/-- The text behind the spaces, comments and newlines it starts with. -/
def skipGap (t : Text) : Text := skipLines t.length t

end DiagramLint.Toml
