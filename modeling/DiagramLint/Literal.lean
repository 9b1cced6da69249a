import DiagramLint.Text.Bytes

/-!
# Diagram literals

A content source holds diagrams as tagged literals:

    field ':' blanks delimiter body delimiter

The body is not empty and has no delimiter in it; the gap between the colon and
the opening delimiter is the whole blank run that follows the colon, so a blank
delimiter never opens a literal.  `Literal.text` writes a literal out and
`Literal.Valid` says which gaps and bodies may stand in one; `Literal.read?`
reads a literal at the front of a text, and always gets past its colon
(`length_lt_of_read?`).
-/

namespace DiagramLint

/-- How a source marks its diagrams: the field they are assigned to, and the
character that quotes them. -/
structure Marker where
  /-- The tag in front of the colon. -/
  field : Text
  delimiter : Char
  deriving DecidableEq, Repr

/-- The parts of a literal that its marker leaves open. -/
structure Literal where
  /-- The blank run between the colon and the opening delimiter. -/
  gap : Text
  body : Text
  deriving DecidableEq, Repr

namespace Literal

/-- What precedes the body: field, colon, gap and opening delimiter. -/
def opening (m : Marker) (l : Literal) : Text := m.field ++ ':' :: l.gap ++ [m.delimiter]

/-- The literal written out. -/
def text (m : Marker) (l : Literal) : Text := l.opening m ++ l.body ++ [m.delimiter]

/-- The gap is blank and the delimiter is not, and the body is a non-empty text
without delimiters. -/
structure Valid (m : Marker) (l : Literal) : Prop where
  gap_blank : ∀ c ∈ l.gap, Text.isBlank c = true
  delimiter_not_blank : Text.isBlank m.delimiter = false
  body_ne_nil : l.body ≠ []
  delimiter_not_mem : m.delimiter ∉ l.body

/-- Reads a body and the delimiter that closes it; also returns what follows. -/
def readBody? (delimiter : Char) (t : Text) : Option (Text × Text) :=
  match t.takeWhile (fun c => c ≠ delimiter), t.dropWhile (fun c => c ≠ delimiter) with
  | c :: body, _ :: rest => some (c :: body, rest)
  | _, _ => none

/-- Reads the part of a literal that follows its field. -/
def readTail? (delimiter : Char) : Text → Option (Literal × Text)
  | ':' :: t =>
      match Text.trimStart t with
      | c :: inner =>
          if c = delimiter then
            (readBody? delimiter inner).map fun (body, rest) => (⟨Text.leading t, body⟩, rest)
          else none
      | [] => none
  | _ => none

/-- Reads the literal that a text begins with; also returns what follows it. -/
def read? (m : Marker) (t : Text) : Option (Literal × Text) :=
  (Text.after? m.field t).bind (readTail? m.delimiter)

/-! ## Reading goes forward -/

theorem length_le_of_readBody? {d : Char} {t body rest : Text}
    (h : readBody? d t = some (body, rest)) : rest.length ≤ t.length := by
  have hle := (List.dropWhile_sublist (l := t) fun c => c ≠ d).length_le
  unfold readBody? at h
  split at h
  · rename_i hdrop
    rw [hdrop, List.length_cons] at hle
    obtain ⟨-, rfl⟩ := Prod.mk.inj (Option.some.inj h)
    omega
  · cases h

theorem length_lt_of_readTail? {d : Char} {t : Text} {l : Literal} {rest : Text}
    (h : readTail? d t = some (l, rest)) : rest.length < t.length := by
  unfold readTail? at h
  split at h
  · rename_i t
    have hle := (List.dropWhile_sublist (l := t) Text.isBlank).length_le
    split at h
    · rename_i c inner htrim
      rw [Text.trimStart] at htrim
      rw [htrim, List.length_cons] at hle
      split at h
      · obtain ⟨⟨body, after⟩, hbody, hpair⟩ := Option.map_eq_some_iff.1 h
        obtain ⟨-, rfl⟩ := Prod.mk.inj hpair
        have := length_le_of_readBody? hbody
        simp only [List.length_cons]
        omega
      · cases h
    · cases h
  · cases h

/-- **Whatever follows a literal is shorter than the text it was read from.** -/
theorem length_lt_of_read? {m : Marker} {t : Text} {l : Literal} {rest : Text}
    (h : read? m t = some (l, rest)) : rest.length < t.length := by
  obtain ⟨tail, htail, hread⟩ := Option.bind_eq_some_iff.1 h
  have := length_lt_of_readTail? hread
  rw [Text.after?_eq_some_iff.1 htail, List.length_append]
  omega

end Literal

end DiagramLint
