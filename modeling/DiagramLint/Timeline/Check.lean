import DiagramLint.Decimal.Text
import DiagramLint.Outcome
import DiagramLint.Timeline.Measure
import DiagramLint.Timeline.Task

/-!
# The check of timelines

Each task of a timeline is drawn as a bar with its label inside, and the bar is as
wide as the task's share of all minutes of the chart.  A label that does not fit
its bar is a finding on the task's line.  The tasks are taken to follow one
another, so the minutes of the chart are the sum of theirs, held at the largest
number of minutes there is.
-/

namespace DiagramLint.Timeline

/-- The minutes of all tasks together, held within the range of durations. -/
def totalMinutes (tasks : List Task) : Nat :=
  tasks.foldl (fun total t => min (total + t.minutes) (durationBound - 1)) 0

/-- The share of a duration in percent. -/
def percentage (minutes total : Nat) : Float := minutes.toFloat / total.toFloat * 100

/-- The finding on a task whose label does not fit. -/
def overflow (index : Nat) (m : Metrics Float) (total : Nat) (t : Task) : Finding :=
  let bar := m.barWidth t.minutes total
  let label := m.labelWidth t.label
  let barText := fixedText (roundHalfUp bar 0) 0
  let labelText := numberText label
  let rect := toString (saturatedInt (roundHalfUp (bar - label) 0))
  let share := fixedText (roundHalfUp (percentage t.minutes total) 1) 1
  { index
    chart := .gantt
    code := .labelOverflow
    message :=
      "\"" ++ String.ofList t.label ++ "\" — bar " ++ barText ++ "px < label " ++ labelText ++
        "px (rect width ~" ++ rect ++ ")"
    label := some ⟨t.span, Code.labelOverflow.description⟩
    help := some
      ("label needs " ++ labelText ++ "px but the bar is " ++ barText ++
        "px; shorten the label or lengthen the task, which spans " ++ share ++
        "% of the chart (" ++ toString t.minutes ++ " of " ++ toString total ++ " minutes)") }

/-- The findings on the tasks whose labels do not fit, in order. -/
def findings (index : Nat) (m : Metrics Float) (tasks : List Task) : List Finding :=
  let total := totalMinutes tasks
  (tasks.filter fun t => ¬ m.Fits t.label t.minutes total).map (overflow index m total)

def leastMinutes (tasks : List Task) : Nat := ((tasks.map Task.minutes).min?).getD 0

/-- The note on a timeline whose labels all fit. -/
def note (tasks : List Task) : PassNote :=
  .tasks tasks.length (percentage (leastMinutes tasks) (totalMinutes tasks))

def check (m : Metrics Float) (b : Block) : Outcome :=
  match b.tasks with
  | [] => .passed b.index .gantt .noTasks
  | tasks => .ofFindings b.index .gantt (findings b.index m tasks) (note tasks)

end DiagramLint.Timeline
