import DiagramLint.Block
import DiagramLint.Text.Digits
import DiagramLint.Timeline.Duration

/-!
# Task lines

A line of a timeline is a task when it has the shape

    label ':' field ',' field ',' blanks digits unit

where the fields hold no comma and anything may follow the unit's letter.  The
label ends at the first colon, after at least one character, behind which such a
`Schedule` can be read *and* amounts to a positive duration in range; a schedule
that does not is passed over, and the search goes on at the next colon.  Lines
without such a colon are not tasks, whatever they say.
-/

namespace DiagramLint

/-- What stands behind the colon of a task line, up to the unit. -/
structure Schedule where
  /-- The comma-free text up to the first comma. -/
  tag : Text
  /-- The comma-free text up to the second comma. -/
  time : Text
  digits : Text
  unit : TimeUnit
  deriving DecidableEq, Repr

namespace Schedule

/-- Reads a comma-free field and the comma that ends it; also returns what
follows. -/
def readField? (t : Text) : Option (Text × Text) :=
  match t.dropWhile (fun c => c ≠ ',') with
  | [] => none
  | _ :: rest => some (t.takeWhile (fun c => c ≠ ','), rest)

/-- Reads a non-empty run of digits and the letter of a unit. -/
def readDuration? (t : Text) : Option (Text × TimeUnit) :=
  match t.takeWhile Char.isDigit, t.dropWhile Char.isDigit with
  | d :: digits, c :: _ => (TimeUnit.ofChar? c).map fun u => (d :: digits, u)
  | _, _ => none

/-- Reads the schedule that a text begins with. -/
def read? (t : Text) : Option Schedule := do
  let (tag, t) ← readField? t
  let (time, t) ← readField? t
  let (digits, unit) ← readDuration? (Text.trimStart t)
  return ⟨tag, time, digits, unit⟩

/-- The duration in minutes, when it is positive and neither the count nor the
minutes are out of range. -/
def minutes? (s : Schedule) : Option Nat :=
  let count := Text.digitsValue 10 s.digits
  if count < durationBound then (s.unit.toMinutes? count).filter (0 < ·) else none

end Schedule

/-- A timed entry of a timeline. -/
structure Task where
  /-- The label drawn inside the bar. -/
  label : Text
  minutes : Nat
  /-- The span of the whole line. -/
  span : Span
  deriving DecidableEq, Repr

namespace Task

/-- The minutes of the schedule behind a colon, if there is a usable one. -/
def minutesAfterColon? (rest : Text) : Option Nat := (Schedule.read? rest).bind Schedule.minutes?

/-- The label and the minutes at the first usable colon of `rest`, where `passed`
is the text in front of `rest`, last character first. -/
def splitFrom (passed : Text) : Text → Option (Text × Nat)
  | [] => none
  | c :: rest =>
      match if c = ':' ∧ passed ≠ [] then minutesAfterColon? rest else none with
      | some minutes => some (Text.trim passed.reverse, minutes)
      | none => splitFrom (c :: passed) rest

/-- The task that a line describes, if it is a task line. -/
def ofLine? (l : Line) : Option Task :=
  (splitFrom [] l.text).map fun (label, minutes) => ⟨label, minutes, l.span⟩

end Task

/-- The tasks of a diagram, in the order of their lines. -/
def Block.tasks (b : Block) : List Task := b.lines.filterMap Task.ofLine?

end DiagramLint
