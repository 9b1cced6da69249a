import DiagramLint.Quadrant.Check
import DiagramLint.Report.Tally
import DiagramLint.Settings.Basic
import DiagramLint.Timeline.Check

/-!
# Checking a source

A block goes to the check for what it draws; other charts pass without being
looked into.  Checking a source extracts its blocks and tallies their outcomes in
order.
-/

namespace DiagramLint

/-- The check of a diagram by what it draws. -/
def checkBlock (s : Settings) (b : Block) : Outcome :=
  match b.chart with
  | .gantt => Timeline.check s.metrics b
  | .quadrant => Quadrant.check s.previewLength b
  | .other token => .passed b.index (.other token) .uninspected

/-- The check of every diagram of a source. -/
def check (s : Settings) (source : Text) : Tally :=
  .ofOutcomes ((extract s.marker source).map (checkBlock s))

end DiagramLint
