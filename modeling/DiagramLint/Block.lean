import DiagramLint.Chart
import DiagramLint.Line
import DiagramLint.Literal

/-!
# Diagram blocks

`extract` finds the literals of a source from left to right and numbers them from
one.  A literal is looked for at every character; once one is found, the search
goes on behind its closing delimiter, so the literals it returns do not overlap,
and what lies inside a body never counts as the start of another.  Each block
holds the trimmed body and the span of exactly that text.
-/

namespace DiagramLint

/-- A diagram of a source. -/
structure Block where
  /-- The position among the diagrams of the source, from one. -/
  index : Nat
  body : Text
  /-- Where that text lies in the source. -/
  span : Span
  deriving DecidableEq, Repr

namespace Block

/-- The block of a literal whose raw body begins at byte `start`. -/
def ofRaw (index start : Nat) (raw : Text) : Block :=
  ⟨index, Text.trim raw,
    Span.ofPiece (start + Text.byteLength (Text.leading raw)) (Text.trim raw)⟩

def chart (b : Block) : Chart := Chart.classify b.body

/-- The lines of the diagram, with their spans in the source. -/
def lines (b : Block) : List Line := DiagramLint.lines b.span.start b.body

end Block

/-- The blocks of the literals in `t`, which begins at byte `offset` of its
source; the first gets the number `index`. -/
def extractFrom (m : Marker) (offset index : Nat) (t : Text) : List Block :=
  match h : Literal.read? m t with
  | some (l, rest) =>
      Block.ofRaw index (offset + Text.byteLength (l.opening m)) l.body ::
        extractFrom m (offset + Text.byteLength (l.text m)) (index + 1) rest
  | none =>
      match t with
      | [] => []
      | c :: t => extractFrom m (offset + c.utf8Size) index t
termination_by t.length
decreasing_by
  · exact Literal.length_lt_of_read? h
  · simp

@[simp] theorem extractFrom_nil (m : Marker) (offset index : Nat) :
    extractFrom m offset index [] = [] := by
  rw [extractFrom]
  split
  · rename_i h
    exact absurd (Literal.length_lt_of_read? h) (Nat.not_lt_zero _)
  · rfl

theorem extractFrom_of_read? {m : Marker} {offset index : Nat} {t rest : Text} {l : Literal}
    (h : Literal.read? m t = some (l, rest)) :
    extractFrom m offset index t =
      Block.ofRaw index (offset + Text.byteLength (l.opening m)) l.body ::
        extractFrom m (offset + Text.byteLength (l.text m)) (index + 1) rest := by
  rw [extractFrom]
  split
  · rename_i h'
    rw [h] at h'
    obtain ⟨rfl, rfl⟩ := Prod.mk.inj (Option.some.inj h')
    rfl
  · rename_i h'
    rw [h] at h'
    cases h'

theorem extractFrom_cons_of_read?_eq_none {m : Marker} {offset index : Nat} {c : Char} {t : Text}
    (h : Literal.read? m (c :: t) = none) :
    extractFrom m offset index (c :: t) = extractFrom m (offset + c.utf8Size) index t := by
  rw [extractFrom]
  split
  · rename_i h'
    rw [h] at h'
    cases h'
  · rfl

/-- The diagrams of a source, in order.  An empty field marks nothing. -/
def extract (m : Marker) (source : Text) : List Block :=
  if m.field = [] then [] else extractFrom m 0 1 source

end DiagramLint
