import DiagramLint.Outcome
import DiagramLint.Quadrant.Structure

/-!
# The check of quadrant charts

The structural lines of a quadrant chart take ASCII characters only.  Each one with
another character is a finding on that line, whose message quotes the beginning of
it.  Titles and other free text may hold any character.
-/

namespace DiagramLint.Quadrant

def hasNonAscii (t : Text) : Bool := t.any fun c => c.toNat > 127

/-- The finding on a structural line. -/
def offence (index previewLength : Nat) (l : Line) (s : Structure) : Finding where
  index := index
  chart := .quadrant
  code := .nonAscii
  message :=
    "non-ASCII in structural line — \"" ++ String.ofList (l.text.take previewLength) ++ "\""
  label := some ⟨l.span, "non-ASCII character in " ++ s.name⟩
  help := some "use ASCII text here; localized text is only safe in the title"

/-- The findings on the structural lines with other characters, in order. -/
def findings (previewLength : Nat) (b : Block) : List Finding :=
  (b.structuralLines.filter fun (l, _) => hasNonAscii l.text).map fun (l, s) =>
    offence b.index previewLength l s

def check (previewLength : Nat) (b : Block) : Outcome :=
  .ofFindings b.index .quadrant (findings previewLength b) .clean

end DiagramLint.Quadrant
