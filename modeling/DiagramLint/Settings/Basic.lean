import DiagramLint.Decimal.Text
import DiagramLint.Literal
import DiagramLint.Timeline.Measure

/-!
# Settings

What a user may choose: how diagrams are marked, the constants of the width
estimate, and how much of an offending line a message quotes.  `violation?` finds
the first setting that cannot be worked with, in the order in which the settings
are listed; settings without a violation are **valid**.  The checks themselves take
any settings.
-/

namespace DiagramLint

/-- The choices of a user. -/
structure Settings where
  marker : Marker
  metrics : Metrics Float
  /-- The number of characters quoted from an offending line. -/
  previewLength : Nat

namespace Settings

/-- The marker in use when none is chosen: the field `diagram` and the grave
accent. -/
def defaultMarker : Marker := ⟨['d', 'i', 'a', 'g', 'r', 'a', 'm'], '\x60'⟩

/-- The constants in use when none are chosen. -/
def defaultMetrics : Metrics Float := ⟨700, 8, 14⟩

def defaultPreviewLength : Nat := 60

/-- The settings of a user who chooses nothing. -/
def default : Settings := ⟨defaultMarker, defaultMetrics, defaultPreviewLength⟩

instance : Inhabited Settings := ⟨default⟩

inductive Width where
  | grid
  | ascii
  | wide
  deriving DecidableEq, Repr

def Width.key : Width → String
  | grid => "gantt.grid_width"
  | ascii => "gantt.ascii_char_width"
  | wide => "gantt.wide_char_width"

/-- Why settings cannot be worked with. -/
inductive Violation where
  | blankField
  | blankDelimiter
  /-- A width is not a positive number. -/
  | width (which : Width) (value : Float)
  /-- No character would be quoted. -/
  | emptyPreview

def Violation.message : Violation → String
  | blankField => "extract.field must not be empty"
  | blankDelimiter => "extract.delimiter must not be whitespace"
  | width which value => which.key ++ " must be a positive number, got " ++ numberText value
  | emptyPreview => "quadrant.preview_len must be at least 1"

/-- Whether a width is finite and greater than zero. -/
def usableWidth (x : Float) : Bool := x.isFinite && 0 < x

/-- A violation, unless the condition holds. -/
def demand (condition : Bool) (v : Violation) : Option Violation :=
  if condition then none else some v

/-- The first violation, in the order of the settings. -/
def violation? (s : Settings) : Option Violation :=
  [demand (Text.trim s.marker.field ≠ []) .blankField,
    demand (!Text.isBlank s.marker.delimiter) .blankDelimiter,
    demand (usableWidth s.metrics.gridWidth) (.width .grid s.metrics.gridWidth),
    demand (usableWidth s.metrics.asciiWidth) (.width .ascii s.metrics.asciiWidth),
    demand (usableWidth s.metrics.wideWidth) (.width .wide s.metrics.wideWidth),
    demand (1 ≤ s.previewLength) .emptyPreview].findSome? id

/-- Nothing is wrong with the settings. -/
def Valid (s : Settings) : Prop := s.violation? = none

end Settings

end DiagramLint
