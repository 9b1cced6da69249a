import DiagramLint.Text.Blank

/-!
# Charts

A diagram says what it draws by its first word: `gantt` for a timeline,
`quadrantChart` for a quadrant chart, anything else for a chart that is not
inspected.  The word is looked for in the first row that is not blank, a row
ending at a line feed or at a carriage return and a line feed.  The match is
exact: case counts, and what follows the word does not.
-/

namespace DiagramLint

/-- What a diagram draws. -/
inductive Chart where
  | gantt
  | quadrant
  /-- Any other chart, named by its first word, which may be empty. -/
  | other (token : Text)
  deriving DecidableEq, Repr

namespace Chart

/-- The word that announces a timeline. -/
def ganttToken : Text := ['g', 'a', 'n', 't', 't']

/-- The word that announces a quadrant chart. -/
def quadrantToken : Text := ['q', 'u', 'a', 'd', 'r', 'a', 'n', 't', 'C', 'h', 'a', 'r', 't']

/-- The chart that a first word announces. -/
def ofToken (token : Text) : Chart :=
  if token = ganttToken then gantt
  else if token = quadrantToken then quadrant
  else other token

/-- The word that announces a chart. -/
def token : Chart → Text
  | gantt => ganttToken
  | quadrant => quadrantToken
  | other token => token

def name (c : Chart) : String := String.ofList c.token

/-- A row without the carriage return that ends it. -/
def dropReturn (row : Text) : Text :=
  if row.getLast? = some '\r' then row.dropLast else row

/-- The first word of the first row that is not blank; empty when all are. -/
def leadingToken (body : Text) : Text :=
  let rows := (body.splitOn '\n').map fun row => Text.trim (dropReturn row)
  match rows.find? fun row => row ≠ [] with
  | some row => Text.firstWord row
  | none => []

def classify (body : Text) : Chart := ofToken (leadingToken body)

@[simp] theorem token_ofToken (t : Text) : (ofToken t).token = t := by
  unfold ofToken
  split
  · rename_i h; exact h.symm
  · split
    · rename_i h; exact h.symm
    · rfl

end Chart

end DiagramLint
