import DiagramLint.Span

/-!
# Lines

A diagram body is read line by line.  A **line** is what lies between two
newlines once the blank characters at its ends are gone; a stretch that is blank
throughout is no line.  Each line knows its span in the source, which
`Line.ofPieces` finds by adding up what it passes: the bytes of each stretch and
one for its newline, whether or not the stretch held a line.
-/

namespace DiagramLint

/-- A trimmed line that is not blank, and where it lies in the source. -/
structure Line where
  /-- The text without the blank runs around it. -/
  text : Text
  span : Span
  deriving DecidableEq, Repr

namespace Line

/-- The line in a stretch of text that begins at byte `start`, unless the stretch
is blank. -/
def ofPiece? (start : Nat) (piece : Text) : Option Line :=
  let text := Text.trim piece
  if text = [] then none
  else some ⟨text, Span.ofPiece (start + Text.byteLength (Text.leading piece)) text⟩

/-- The lines in consecutive stretches, the first of which begins at byte
`start`; a newline of one byte parts each from the next. -/
def ofPieces (start : Nat) : List Text → List Line
  | [] => []
  | piece :: pieces =>
      (ofPiece? start piece).toList ++ ofPieces (start + Text.byteLength piece + 1) pieces

@[simp] theorem ofPieces_nil (start : Nat) : ofPieces start [] = [] := rfl

theorem ofPieces_cons (start : Nat) (piece : Text) (pieces : List Text) :
    ofPieces start (piece :: pieces) =
      (ofPiece? start piece).toList ++
        ofPieces (start + Text.byteLength piece + 1) pieces := rfl

end Line

/-- The lines of a body that begins at byte `base` of its source. -/
def lines (base : Nat) (body : Text) : List Line := Line.ofPieces base (body.splitOn '\n')

end DiagramLint
