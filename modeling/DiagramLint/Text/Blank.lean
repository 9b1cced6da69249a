/-!
# Text and blank characters

A text is the list of its characters.  A character is **blank** when it has the
Unicode property `White_Space`; trimming removes blank characters from the ends,
and the first word of a text is its first maximal run of characters that are not
blank.

Each operation is pinned down by what it leaves of the text: the blank run that
`trimStart` drops, followed by what it keeps, is the text
(`leading_append_trimStart`), and likewise at the other end
(`trimEnd_append_trailing`).  In the ASCII range the table of blank characters holds all
that the library takes for whitespace (`isBlank_of_isWhitespace`).
-/

namespace DiagramLint

/-- A text is the list of its characters. -/
abbrev Text := List Char

namespace Text

/-- The code points with the property `White_Space`, as ranges with both ends. -/
def blankRanges : List (Nat × Nat) :=
  [(0x09, 0x0D), (0x20, 0x20), (0x85, 0x85), (0xA0, 0xA0), (0x1680, 0x1680), (0x2000, 0x200A),
    (0x2028, 0x2029), (0x202F, 0x202F), (0x205F, 0x205F), (0x3000, 0x3000)]

/-- Whether a character is blank. -/
def isBlank (c : Char) : Bool :=
  blankRanges.any fun r => r.1 ≤ c.toNat && c.toNat ≤ r.2

/-- The blank run a text starts with. -/
def leading (t : Text) : Text := t.takeWhile isBlank

/-- The text without the blank run it starts with. -/
def trimStart (t : Text) : Text := t.dropWhile isBlank

/-- The blank run a text ends with. -/
def trailing (t : Text) : Text := (t.reverse.takeWhile isBlank).reverse

/-- The text without the blank run it ends with. -/
def trimEnd (t : Text) : Text := (t.reverse.dropWhile isBlank).reverse

/-- The text without the blank runs at its ends. -/
def trim (t : Text) : Text := trimEnd (trimStart t)

/-- The first maximal run of characters that are not blank; empty when there is
none. -/
def firstWord (t : Text) : Text := (trimStart t).takeWhile fun c => !isBlank c

/-- What follows `start` in a text that begins with it. -/
def after? : Text → Text → Option Text
  | [], t => some t
  | _ :: _, [] => none
  | s :: start, c :: t => if s = c then after? start t else none

/-! ## What the operations leave -/

theorem leading_append_trimStart (t : Text) : leading t ++ trimStart t = t :=
  List.takeWhile_append_dropWhile

theorem trimEnd_append_trailing (t : Text) : trimEnd t ++ trailing t = t := by
  rw [trimEnd, trailing, ← List.reverse_append, List.takeWhile_append_dropWhile,
    List.reverse_reverse]

/-- Nothing but blank characters surrounds the trimmed text. -/
theorem leading_append_trim_append (t : Text) :
    leading t ++ trim t ++ trailing (trimStart t) = t := by
  rw [List.append_assoc, trim, trimEnd_append_trailing, leading_append_trimStart]

/-- Every whitespace character of the ASCII range is blank. -/
theorem isBlank_of_isWhitespace {c : Char} (h : c.isWhitespace = true) : isBlank c = true := by
  simp only [Char.isWhitespace, Bool.or_eq_true, decide_eq_true_eq] at h
  rcases h with ((rfl | rfl) | rfl) | rfl <;> decide

@[simp] theorem trim_nil : trim [] = [] := rfl

/-- **A text begins with `start` exactly when something follows it.** -/
theorem after?_eq_some_iff {start t rest : Text} :
    after? start t = some rest ↔ t = start ++ rest := by
  induction start generalizing t with
  | nil => simp [after?, eq_comm]
  | cons s start ih =>
      cases t with
      | nil => simp [after?]
      | cons c t =>
          by_cases h : s = c
          · subst h; simp [after?, ih]
          · simp [after?, h, Ne.symm h]

end Text

end DiagramLint
