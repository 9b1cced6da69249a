import DiagramLint.Files.Tree
import DiagramLint.Main
import DiagramLint.Proofs.AddedDiagnostics
import DiagramLint.Proofs.AppendedText
import DiagramLint.Proofs.ChartWords
import DiagramLint.Proofs.DoubleArithmetic
import DiagramLint.Proofs.EasedTasks
import DiagramLint.Proofs.EmbeddedLiterals
import DiagramLint.Proofs.ExitSignal
import DiagramLint.Proofs.FatalFaults
import DiagramLint.Proofs.FieldSearch
import DiagramLint.Proofs.FindingPlaces
import DiagramLint.Proofs.FullStreams
import DiagramLint.Proofs.LineBreaks
import DiagramLint.Proofs.LineSplitting
import DiagramLint.Proofs.PartialDocuments
import DiagramLint.Proofs.QuadrantOutcome
import DiagramLint.Proofs.QuadrantTitles
import DiagramLint.Proofs.RearrangedLines
import DiagramLint.Proofs.ReportHeadlines
import DiagramLint.Proofs.ReportLines
import DiagramLint.Proofs.SettingsOrigin
import DiagramLint.Proofs.TallyHistory
import DiagramLint.Proofs.TimelineHeaders
import DiagramLint.Proofs.TimelineOutcome
import DiagramLint.Proofs.TimelineTotals
