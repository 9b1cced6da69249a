import DiagramLint.Text.Bytes

/-!
# Spans

A span is a half-open range `start ≤ i < stop` of byte offsets into a source.
`Covers` says what a span is for: the source splits around the piece at exactly
those offsets, so the span is in bounds and both of its ends lie between
characters (`Covers.stop_le`).  Moving a span keeps its length (`length_shift`).
-/

namespace DiagramLint

/-- A half-open range of byte offsets. -/
structure Span where
  start : Nat
  /-- The offset one past the last byte. -/
  stop : Nat
  deriving DecidableEq, Repr

namespace Span

/-- The span of a piece that begins at the given offset. -/
def ofPiece (start : Nat) (piece : Text) : Span := ⟨start, start + Text.byteLength piece⟩

def length (s : Span) : Nat := s.stop - s.start

def isEmpty (s : Span) : Bool := s.start == s.stop

def shift (s : Span) (offset : Nat) : Span := ⟨s.start + offset, s.stop + offset⟩

/-- The span lies on `piece` in `source`: what precedes the piece has as many
bytes as the span's start says, and the piece has as many as the span. -/
def Covers (s : Span) (source piece : Text) : Prop :=
  ∃ before after, source = before ++ piece ++ after ∧ s = ofPiece (Text.byteLength before) piece

@[simp] theorem length_shift (s : Span) (n : Nat) : (s.shift n).length = s.length := by
  simp [length, shift, Nat.add_sub_add_right]

@[simp] theorem isEmpty_shift (s : Span) (n : Nat) : (s.shift n).isEmpty = s.isEmpty := by
  rw [Bool.eq_iff_iff]
  simp [isEmpty, shift]

@[simp] theorem length_ofPiece (n : Nat) (t : Text) : (ofPiece n t).length = Text.byteLength t := by
  simp [length, ofPiece]

theorem shift_ofPiece (n m : Nat) (t : Text) : (ofPiece n t).shift m = ofPiece (n + m) t := by
  simp only [shift, ofPiece, mk.injEq, true_and]
  omega

theorem Covers.stop_le {s : Span} {source piece : Text} (h : s.Covers source piece) :
    s.start ≤ s.stop ∧ s.stop ≤ Text.byteLength source := by
  obtain ⟨before, after, rfl, rfl⟩ := h
  simp only [ofPiece, Text.byteLength_append]
  omega

end Span

end DiagramLint
