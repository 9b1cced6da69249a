import DiagramLint.Decimal.Text
import DiagramLint.Report.Tally

/-!
# Reports

A report is a list of records, each written to one of two streams: a line for every
passing diagram and, when there are no findings, the summary go to the output; a
line for every finding and the summary of a failing run go to the error stream.
-/

namespace DiagramLint

/-- The streams of a report. -/
inductive Stream where
  /-- Where passes go. -/
  | out
  /-- Where findings go. -/
  | err
  deriving DecidableEq, Repr

/-- What is written to a stream in one go. -/
structure Record where
  stream : Stream
  text : String
  deriving DecidableEq, Repr

/-- The texts of the records for one stream, one behind the other. -/
def Record.textOn (s : Stream) (rs : List Record) : String :=
  String.join ((rs.filter fun r => r.stream = s).map Record.text)

/-- The note in brackets behind the name of a passing chart. -/
def PassNote.suffix : PassNote → String
  | uninspected => ""
  | clean => ""
  | noTasks => " (no tasks found)"
  | tasks count narrowest =>
      " (" ++ toString count ++ " tasks, narrowest bar " ++
        fixedText (roundHalfUp narrowest 1) 1 ++ "%)"

/-- The diagram a line of the report is about. -/
def Outcome.subject (o : Outcome) : String := "[" ++ toString o.index ++ "] " ++ o.chart.name

/-- The lines of the report on one diagram. -/
def Outcome.records (o : Outcome) : List Record :=
  match o.verdict with
  | .passed note => [⟨.out, "  ✓  " ++ o.subject ++ note.suffix ++ "\n"⟩]
  | .failed findings =>
      findings.map fun f => ⟨.err, "  ✗  " ++ o.subject ++ ": " ++ f.message ++ "\n"⟩

namespace Tally

/-- The closing line, with a blank line on either side. -/
def summary (t : Tally) : Record :=
  if t.isClean then
    ⟨.out, "\n✅  All " ++ toString t.diagramCount ++ " diagrams passed\n\n"⟩
  else
    ⟨.err, "\n❌  " ++ toString t.findingCount ++ " error(s) found in " ++
      toString t.diagramCount ++ " diagrams — fix before committing\n\n"⟩

/-- The report on a run. -/
def report (t : Tally) : List Record := t.outcomes.toList.flatMap Outcome.records ++ [t.summary]

end Tally

end DiagramLint
