import DiagramLint.Block
import DiagramLint.Text.Alphanumeric
import DiagramLint.Text.Digits

/-!
# Structural lines

A quadrant chart is drawn from its **structural** lines: the axis declarations,
the quadrant names and the data points.

    'x-axis' …      'y-axis' …      'quadrant-' digit …
    words ':' blanks '[' …

The words in front of a data point's colon are letters and numbers of any script,
underscores and blank characters.  No line has two of these shapes: a hyphen stands
in the first word of the first three and is no word character.  Titles, comments
and styles have none and are free text.
-/

namespace DiagramLint

/-- What a structural line declares. -/
inductive Structure where
  | xAxis
  | yAxis
  /-- The name of the quadrant with this digit. -/
  | quadrant (digit : Nat)
  | dataPoint
  deriving DecidableEq, Repr

namespace Structure

def name : Structure → String
  | xAxis => "x-axis declaration"
  | yAxis => "y-axis declaration"
  | quadrant digit => "quadrant-" ++ toString digit ++ " declaration"
  | dataPoint => "data point"

def xAxisWord : Text := ['x', '-', 'a', 'x', 'i', 's']

def yAxisWord : Text := ['y', '-', 'a', 'x', 'i', 's']

/-- What declares a quadrant, in front of its digit. -/
def quadrantWord : Text := ['q', 'u', 'a', 'd', 'r', 'a', 'n', 't', '-']

/-- Whether a character may stand in the name of a data point. -/
def isWordOrBlank (c : Char) : Bool := Text.isAlphanumeric c || c = '_' || Text.isBlank c

/-- The digit of the quadrant that the text declares. -/
def quadrantDigit? (t : Text) : Option Nat :=
  match Text.after? quadrantWord t with
  | some (c :: _) => if c.isDigit then some (Text.digitValue c) else none
  | _ => none

/-- Whether the text is a named point in front of coordinates. -/
def isDataPoint (t : Text) : Bool :=
  match t.takeWhile isWordOrBlank, t.dropWhile isWordOrBlank with
  | _ :: _, ':' :: rest => (Text.trimStart rest).head? = some '['
  | _, _ => false

/-- What a text declares, if it is structural. -/
def ofText? (t : Text) : Option Structure :=
  if (Text.after? xAxisWord t).isSome then some xAxis
  else if (Text.after? yAxisWord t).isSome then some yAxis
  else
    match quadrantDigit? t with
    | some digit => some (quadrant digit)
    | none => if isDataPoint t then some dataPoint else none

end Structure

/-- The structural lines of a diagram, in order, with what they declare. -/
def Block.structuralLines (b : Block) : List (Line × Structure) :=
  b.lines.filterMap fun l => (Structure.ofText? l.text).map fun s => (l, s)

end DiagramLint
