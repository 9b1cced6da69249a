import DiagramLint.Chart
import DiagramLint.Span

/-!
# Findings

A finding is one defect of one diagram.  It has a code for its kind, a message,
and, when it concerns a place of the source, a label on that place; it may say how
to mend the defect.  There are no warnings: every finding fails the run.
-/

namespace DiagramLint

/-- The kind of a finding. -/
inductive Code where
  | labelOverflow
  /-- A character above U+007F where a quadrant chart does not take one. -/
  | nonAscii
  deriving DecidableEq, Repr

def Code.name : Code → String
  | labelOverflow => "E100"
  | nonAscii => "E200"

def Code.description : Code → String
  | labelOverflow => "timeline label wider than its bar"
  | nonAscii => "non-ASCII character in quadrant chart syntax"

/-- A remark on a place of the source. -/
structure Label where
  span : Span
  message : String
  deriving DecidableEq, Repr

/-- A defect of a diagram. -/
structure Finding where
  /-- The number of the diagram. -/
  index : Nat
  chart : Chart
  code : Code
  message : String
  label : Option Label := none
  help : Option String := none
  deriving DecidableEq, Repr

namespace Finding

def text (f : Finding) : String := "error[" ++ f.code.name ++ "]: " ++ f.message

/-- The finding with the diagram it belongs to. -/
def headline (f : Finding) : String :=
  "[" ++ toString f.index ++ "] " ++ f.chart.name ++ ": " ++ f.message

end Finding

end DiagramLint
