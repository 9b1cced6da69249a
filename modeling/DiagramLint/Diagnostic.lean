import DiagramLint.Fault

/-!
# Diagnostics

A diagnostic shows a finding or a fault on its own: a code, a headline, the place in
the source for a finding that has one, and help.  Rendering quotes the labelled part
of the source with its line and column; it fails only when a label does not lie
within the source it is rendered against (`render?_isSome_iff`).
-/

namespace DiagramLint

/-- What a diagnostic is about. -/
inductive Diagnostic where
  | finding (f : Finding)
  | fault (f : Fault)

/-- The findings of a run as diagnostics, in order. -/
def Tally.diagnostics (t : Tally) : List Diagnostic := t.findings.map .finding

namespace Diagnostic

def headline : Diagnostic → String
  | finding f => f.headline
  | fault f => f.message

def code : Diagnostic → String
  | finding f => f.code.name
  | fault f => f.code

def help : Diagnostic → Option String
  | finding f => f.help
  | fault f => f.help

/-- The cause behind a fault. -/
def cause : Diagnostic → Option String
  | finding _ => none
  | fault f => f.source

def hasSource : Diagnostic → Bool
  | finding _ => true
  | fault _ => false

def label : Diagnostic → Option Label
  | finding f => f.label
  | fault _ => none

/-! ## Rendering -/

/-- What shows a diagnostic: its text against the source of the given name, unless it
cannot be shown. -/
abbrev Renderer := String → Text → Diagnostic → Option String

/-- The text up to a number of bytes, and the rest; a character of which only a part
fits belongs to the rest. -/
def splitAtByte : Nat → Text → Text × Text
  | _, [] => ([], [])
  | n, c :: t =>
      if c.utf8Size ≤ n then
        let (front, rest) := splitAtByte (n - c.utf8Size) t
        (c :: front, rest)
      else ([], c :: t)

/-- The part of a source that a label marks, with its line and column. -/
def snippet (name : String) (source : Text) (l : Label) : String :=
  let (before, rest) := splitAtByte l.span.start source
  let (marked, _) := splitAtByte l.span.length rest
  let line := before.count '\n' + 1
  let column := (before.reverse.takeWhile fun c => c ≠ '\n').length + 1
  "   ╭─[" ++ name ++ ":" ++ toString line ++ ":" ++ toString column ++ "]\n" ++
    "   │ " ++ String.ofList marked ++ "\n" ++
    "   ╰─ " ++ l.message ++ "\n"

/-- Whether the label, if there is one, lies within the source. -/
def fits (source : Text) (d : Diagnostic) : Bool :=
  match d.label with
  | none => true
  | some l => l.span.stop ≤ Text.byteLength source

/-- The diagnostic against the source of the given name; nothing when its label does
not lie within the source. -/
def render? : Renderer := fun name source d =>
  if d.fits source then
    let place := (d.label.map (snippet name source)).getD ""
    let help := (d.help.map fun h => "  help: " ++ h ++ "\n").getD ""
    some (d.code ++ "\n\n  × " ++ d.headline ++ "\n" ++ place ++ help)
  else none

theorem render?_isSome_iff {name : String} {source : Text} {d : Diagnostic} :
    (d.render? name source).isSome ↔ d.fits source := by
  unfold render?
  split <;> simp_all

end Diagnostic

end DiagramLint
