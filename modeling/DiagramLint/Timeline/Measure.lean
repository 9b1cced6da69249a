import DiagramLint.Text.Blank

/-!
# Widths of labels and bars

A label is as wide as its characters together, a bar as its share of the chart's
minutes says.  Both are estimates in pixels, and both are computed in an
arithmetic that rounds; `Measure` is what they need of it.  The program computes
in doubles, where the sum of no widths is `-0.0`, the number that changes no other
when added.

A label fits its bar when its width is *at most* the bar's (`Metrics.Fits`); where
the comparison has no answer, as with a width that is not a number, it does not
fit.
-/

namespace DiagramLint

/-- An arithmetic in which widths are measured. -/
class Measure (α : Type) extends Add α, Mul α, Div α, LE α where
  /-- The sum of no widths. -/
  nothing : α
  /-- A number of minutes as a width. -/
  ofMinutes : Nat → α
  decLe : DecidableLE α

instance Measure.decidableLE {α : Type} [Measure α] : DecidableLE α := Measure.decLe

instance : Measure Float where
  nothing := -0.0
  ofMinutes n := n.toFloat
  decLe := inferInstance

/-- The constants of the estimate. -/
structure Metrics (α : Type) where
  /-- The width that all bars of a chart have together. -/
  gridWidth : α
  /-- The width of a character up to U+007F. -/
  asciiWidth : α
  wideWidth : α

namespace Metrics

variable {α : Type} [Measure α] (m : Metrics α)

def charWidth (c : Char) : α := if c.toNat > 127 then m.wideWidth else m.asciiWidth

/-- The width of a label: its characters' widths, added from left to right. -/
def labelWidth (label : Text) : α :=
  label.foldl (fun width c => width + m.charWidth c) Measure.nothing

/-- The width of the bar of `minutes` out of `total` minutes. -/
def barWidth (minutes total : Nat) : α :=
  Measure.ofMinutes minutes / Measure.ofMinutes total * m.gridWidth

/-- The label is no wider than the bar. -/
def Fits (label : Text) (minutes total : Nat) : Prop :=
  m.labelWidth label ≤ m.barWidth minutes total

instance (label : Text) (minutes total : Nat) : Decidable (m.Fits label minutes total) :=
  inferInstanceAs (Decidable (_ ≤ _))

end Metrics

end DiagramLint
