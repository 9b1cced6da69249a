import DiagramLint.Proofs.BodyRows
import Mathlib.Data.List.DropRight
import Mathlib.Data.List.Pairwise
import Mathlib.Data.List.Sort

/-!
# Lines and what lies between them

A body is its lines and what lies between them: nothing but blank characters, with a newline
between any two lines.  `SplitsInto` says this of a list of lines without looking at how it
was made, by what stands at each place of the body.

The lines that are read off a body are such a list, and there is no other
(`SplitsInto.unique`).  For a character that is not blank lies within a line of either list, and
a line of one list cannot reach into two lines of the other, as there would be a newline in
it; so the lines of both lists begin and end at the same characters.

The place of the body in its source moves the spans of its lines and changes nothing else
(`lines_add`).
-/

namespace DiagramLint

namespace Text

/-! ## Characters at their places -/

/-- A character stands at a byte offset of a text. -/
def HasAt (t : Text) (i : Nat) (c : Char) : Prop :=
  ∃ front rest, t = front ++ c :: rest ∧ i = byteLength front

theorem HasAt.lt {t : Text} {i : Nat} {c : Char} (h : t.HasAt i c) : i < byteLength t := by
  obtain ⟨front, rest, rfl, rfl⟩ := h
  have hpos := c.utf8Size_pos
  rw [byteLength_append, byteLength_cons]
  omega

/-- What stands in a piece of a text stands in the text. -/
theorem HasAt.of_piece (before front rest after : Text) (c : Char) :
    HasAt (before ++ (front ++ c :: rest) ++ after) (byteLength before + byteLength front) c :=
  ⟨before ++ front, rest ++ after, by simp, (byteLength_append _ _).symm⟩

/-- What stands in a text within the bytes of a piece stands in that piece. -/
theorem HasAt.exists_piece {before t after : Text} {i : Nat} {c : Char}
    (h : HasAt (before ++ t ++ after) i c) (hle : byteLength before ≤ i)
    (hlt : i < byteLength before + byteLength t) :
    ∃ front rest, t = front ++ c :: rest ∧ i = byteLength before + byteLength front := by
  obtain ⟨x, y, hsplit, rfl⟩ := h
  rw [List.append_assoc] at hsplit
  obtain ⟨front, rfl, hpiece⟩ := exists_append_of_byteLength_le hsplit hle
  rw [byteLength_append] at hlt
  obtain ⟨rest, rfl, hrest⟩ := exists_append_of_byteLength_le hpiece.symm (by omega)
  cases rest with
  | nil =>
    rw [List.append_nil] at hlt
    omega
  | cons d rest =>
    obtain ⟨rfl, -⟩ := List.cons.inj hrest
    exact ⟨front, rest, rfl, byteLength_append _ _⟩

/-- A character that stands in a text of two parts with a newline in between, and is not
blank, stands in one of the parts. -/
theorem HasAt.of_newline {row rest : Text} {i : Nat} {c : Char}
    (h : HasAt (row ++ '\n' :: rest) i c) (hc : isBlank c = false) :
    row.HasAt i c ∨ ∃ j, rest.HasAt j c ∧ i = byteLength row + 1 + j := by
  obtain ⟨x, y, hsplit, rfl⟩ := h
  rcases append_cons_cases hsplit with ⟨-, rfl, -⟩ | ⟨z, rfl, hrest⟩ | ⟨z, hrow, -⟩
  · rw [isBlank_newline] at hc
    cases hc
  · refine Or.inr ⟨byteLength z, ⟨z, y, hrest, rfl⟩, ?_⟩
    rw [byteLength_append, byteLength_cons, Nat.add_assoc]
    rfl
  · exact Or.inl ⟨x, z, hrow, rfl⟩

theorem HasAt.behind_newline {rest : Text} {i : Nat} {c : Char} (h : rest.HasAt i c)
    (row : Text) : HasAt (row ++ '\n' :: rest) (byteLength row + 1 + i) c := by
  obtain ⟨front, behind, rfl, rfl⟩ := h
  refine ⟨row ++ '\n' :: front, behind, by simp, ?_⟩
  rw [byteLength_append, byteLength_cons, Nat.add_assoc]
  rfl

/-! ## Trimmed texts -/

@[simp] theorem trim_trim (t : Text) : trim (trim t) = trim t := by
  have hend : trimEnd (trimEnd (trimStart t)) = trimEnd (trimStart t) := by
    simp only [trimEnd, List.reverse_reverse, List.dropWhile_idempotent]
  rw [trim, trimStart_trim, trim, hend]

/-- A trimmed text ends with a character that is not blank. -/
theorem isBlank_last_of_trimmed {front : Text} {c : Char} (h : trim (front ++ [c]) = front ++ [c]) :
    isBlank c = false := by
  cases hc : isBlank c with
  | false => rfl
  | true =>
    exfalso
    rw [trim_concat_blank hc] at h
    have hsplit := congrArg List.length (leading_append_trim_append front)
    rw [h] at hsplit
    simp only [List.length_append, List.length_cons] at hsplit
    omega

/-- A character that is not blank is not trimmed away. -/
theorem HasAt.within_trim {t : Text} {i : Nat} {c : Char} (h : t.HasAt i c)
    (hc : isBlank c = false) :
    byteLength (leading t) ≤ i ∧ i < byteLength (leading t) + byteLength (trim t) := by
  have hlt := h.lt
  have hsplit := leading_append_trim_append t
  have hlength := congrArg byteLength hsplit
  rw [byteLength_append, byteLength_append] at hlength
  rw [← hsplit] at h
  constructor
  · by_contra hlead
    -- the character would stand in the blank run in front
    rw [List.append_assoc, ← List.nil_append (leading t)] at h
    obtain ⟨front, rest, hpiece, -⟩ := h.exists_piece (Nat.zero_le i) (by simpa using hlead)
    have hmem : c ∈ leading t := by simp [hpiece]
    rw [isBlank_of_mem_leading hmem] at hc
    cases hc
  · by_contra htrail
    rw [← List.append_nil (leading t ++ trim t ++ _)] at h
    obtain ⟨front, rest, hpiece, -⟩ := h.exists_piece
      (by rw [byteLength_append]; omega) (by rw [byteLength_append]; omega)
    have hmem : c ∈ trailing (trimStart t) := by simp [hpiece]
    rw [isBlank_of_mem_trailing hmem] at hc
    cases hc

end Text

/-! ## What lines a body has -/

/-- The byte offset lies in the span. -/
def Span.Contains (s : Span) (i : Nat) : Prop := s.start ≤ i ∧ i < s.stop

/-- A span lies on one piece of a text. -/
theorem Span.Covers.unique {s : Span} {source piece piece' : Text} (h : s.Covers source piece)
    (h' : s.Covers source piece') : piece = piece' := by
  obtain ⟨before, after, rfl, rfl⟩ := h
  obtain ⟨before', after', hsplit, hspan⟩ := h'
  obtain ⟨hstart, hstop⟩ := Span.mk.inj hspan
  rw [List.append_assoc, List.append_assoc] at hsplit
  obtain ⟨-, hpieces⟩ := Text.append_inj_of_byteLength_eq hsplit hstart
  exact (Text.append_inj_of_byteLength_eq hpieces (by omega)).1

/-- The line in a source that has `n` more bytes in front. -/
def Line.shift (l : Line) (n : Nat) : Line := ⟨l.text, l.span.shift n⟩

/-- A newline of a body that begins at byte `base` stands behind one line and in front of
another. -/
def Line.Parted (base : Nat) (body : Text) (a b : Line) : Prop :=
  ∃ i, body.HasAt i '\n' ∧ a.span.stop ≤ base + i ∧ base + i < b.span.start

/-- A body that begins at byte `base` consists of these lines and of what lies between them. -/
structure SplitsInto (base : Nat) (body : Text) (ls : List Line) : Prop where
  text_ne_nil : ∀ l ∈ ls, l.text ≠ []
  trimmed : ∀ l ∈ ls, Text.trim l.text = l.text
  newline_not_mem : ∀ l ∈ ls, '\n' ∉ l.text
  /-- Relative to the body, the span of a line lies on its text. -/
  covers : ∀ l ∈ ls, ∃ s : Span, l.span = s.shift base ∧ s.Covers body l.text
  in_order : ls.Pairwise fun a b => a.span.start < b.span.start ∧ a.span.stop ≤ b.span.start
  blank_outside : ∀ i c, body.HasAt i c → (∀ l ∈ ls, ¬ l.span.Contains (base + i)) →
    Text.isBlank c = true
  parted : ls.Pairwise (Line.Parted base body)

/-! ## The lines that are read -/

theorem Line.ofPiece?_add (n start : Nat) (piece : Text) :
    Line.ofPiece? (start + n) piece = (Line.ofPiece? start piece).map fun l => l.shift n := by
  simp only [Line.ofPiece?]
  split
  · rfl
  · simp only [Option.map_some, Line.shift, Span.shift_ofPiece]
    congr 3
    omega

/-- **The place of a body moves the spans of its lines**, and nothing else. -/
theorem lines_add (base n : Nat) (body : Text) :
    lines (base + n) body = (lines base body).map fun l => l.shift n := by
  induction body using Text.rowInduction generalizing base with
  | last row hrow =>
    rw [lines_of_not_mem _ hrow, lines_of_not_mem _ hrow, Line.ofPiece?_add]
    cases Line.ofPiece? base row <;> rfl
  | more row rest hrow ih =>
    have hstart : base + n + Text.byteLength row + 1 = base + Text.byteLength row + 1 + n := by
      omega
    rw [lines_append_newline _ hrow, lines_append_newline _ hrow, List.map_append, hstart, ih,
      Line.ofPiece?_add]
    cases Line.ofPiece? base row <;> rfl

/-- A character of a piece that is not blank lies within the line of the piece. -/
theorem Line.exists_ofPiece?_contains {row : Text} {i : Nat} {c : Char} (h : row.HasAt i c)
    (hc : Text.isBlank c = false) (base : Nat) :
    ∃ l ∈ (Line.ofPiece? base row).toList, l.span.Contains (base + i) := by
  obtain ⟨hle, hlt⟩ := h.within_trim hc
  have hne : Text.trim row ≠ [] := by
    intro hnil
    rw [hnil, Text.byteLength_nil] at hlt
    omega
  refine ⟨_, by rw [Line.ofPiece?, if_neg hne]; exact List.mem_singleton_self _, ?_⟩
  simp only [Span.Contains, Span.ofPiece]
  omega

/-- A piece has one line at most. -/
theorem Line.pairwise_ofPiece? (R : Line → Line → Prop) (base : Nat) (row : Text) :
    (Line.ofPiece? base row).toList.Pairwise R := by
  cases Line.ofPiece? base row with
  | none => exact List.Pairwise.nil
  | some l => exact List.pairwise_singleton R l

/-- A character that is not blank lies within a line. -/
theorem exists_line_contains {base : Nat} {body : Text} {i : Nat} {c : Char}
    (h : body.HasAt i c) (hc : Text.isBlank c = false) :
    ∃ l ∈ lines base body, l.span.Contains (base + i) := by
  induction body using Text.rowInduction generalizing base i with
  | last row hrow =>
    rw [lines_of_not_mem base hrow]
    exact Line.exists_ofPiece?_contains h hc base
  | more row rest hrow ih =>
    rw [lines_append_newline base hrow]
    rcases h.of_newline hc with hfirst | ⟨j, hrest, rfl⟩
    · obtain ⟨l, hl, hin⟩ := Line.exists_ofPiece?_contains hfirst hc base
      exact ⟨l, List.mem_append_left _ hl, hin⟩
    · obtain ⟨l, hl, hin⟩ : ∃ l ∈ lines (base + Text.byteLength row + 1) rest,
          l.span.Contains (base + Text.byteLength row + 1 + j) := ih hrest
      refine ⟨l, List.mem_append_right _ hl, ?_⟩
      rwa [show base + (Text.byteLength row + 1 + j) = base + Text.byteLength row + 1 + j by omega]

/-- Between any two lines there is a newline. -/
theorem pairwise_parted_lines (base : Nat) (body : Text) :
    (lines base body).Pairwise (Line.Parted base body) := by
  induction body using Text.rowInduction generalizing base with
  | last row hrow =>
    rw [lines_of_not_mem base hrow]
    exact Line.pairwise_ofPiece? _ base row
  | more row rest hrow ih =>
    rw [lines_append_newline base hrow]
    refine List.pairwise_append.mpr ⟨Line.pairwise_ofPiece? _ base row, ?_, ?_⟩
    · -- a newline between two rows behind the first
      refine (ih (base + Text.byteLength row + 1)).imp ?_
      rintro a b ⟨i, hnewline, hstop, hstart⟩
      exact ⟨_, hnewline.behind_newline row, by omega, by omega⟩
    · -- the newline behind the first row
      intro a ha b hb
      have hin : a ∈ lines base row := by rwa [lines_of_not_mem base hrow]
      have hstop := (within_of_mem_lines hin).bounds.2.2
      have hstart := (within_of_mem_lines hb).bounds.1
      exact ⟨Text.byteLength row, ⟨row, rest, rfl, rfl⟩, by omega, by omega⟩

/-- **The lines that are read are what the body consists of.** -/
theorem splitsInto_lines (base : Nat) (body : Text) : SplitsInto base body (lines base body) where
  text_ne_nil := fun l hl => (within_of_mem_lines hl).text_ne_nil
  trimmed := by
    intro l hl
    obtain ⟨before, row, after, -, -, -, -, htext, -⟩ := (within_of_mem_lines hl).row
    rw [htext, Text.trim_trim]
  newline_not_mem := fun l hl => (within_of_mem_lines hl).newline_not_mem
  covers := by
    intro l hl
    have hmoved := lines_add 0 base body
    rw [Nat.zero_add] at hmoved
    rw [hmoved] at hl
    obtain ⟨l', hl', rfl⟩ := List.mem_map.mp hl
    exact ⟨l'.span, rfl, (within_of_mem_lines hl').covers ⟨[], [], by simp, rfl⟩⟩
  in_order := by
    refine (pairwise_lines base body).imp_of_mem ?_
    intro a b ha _ hlt
    have hbounds := (within_of_mem_lines ha).bounds
    omega
  blank_outside := by
    intro i c hat hout
    cases hc : Text.isBlank c with
    | true => rfl
    | false =>
      obtain ⟨l, hl, hin⟩ := exists_line_contains hat hc
      exact absurd hin (hout l hl)
  parted := pairwise_parted_lines base body

/-! ## There are no other lines -/

namespace SplitsInto

variable {base : Nat} {body : Text} {ls ls' : List Line} {l l' : Line} {i j : Nat} {c d : Char}

/-- A character of the body that lies within the span of a line is a character of the line,
with all its bytes. -/
theorem mem_text (h : SplitsInto base body ls) (hl : l ∈ ls) (hat : body.HasAt i c)
    (hin : l.span.Contains (base + i)) :
    c ∈ l.text ∧ base + i + c.utf8Size ≤ l.span.stop := by
  obtain ⟨s, hspan, before, after, hbody, rfl⟩ := h.covers l hl
  rw [hspan] at hin ⊢
  simp only [Span.Contains, Span.shift, Span.ofPiece] at hin ⊢
  rw [hbody] at hat
  obtain ⟨front, rest, htext, hi⟩ := hat.exists_piece (by omega) (by omega)
  refine ⟨by simp [htext], ?_⟩
  rw [htext, Text.byteLength_append, Text.byteLength_cons]
  omega

/-- A character of the body that is not blank lies within a line. -/
theorem exists_contains (h : SplitsInto base body ls) (hat : body.HasAt i c)
    (hc : Text.isBlank c = false) : ∃ l ∈ ls, l.span.Contains (base + i) := by
  by_contra hnone
  have hblank := h.blank_outside i c hat fun l hl hin => hnone ⟨l, hl, hin⟩
  rw [hc] at hblank
  cases hblank

/-- Of two lines one stands in front of the other, with a newline in between. -/
theorem parted_of_ne (h : SplitsInto base body ls) (hl : l ∈ ls) (hl' : l' ∈ ls) (hne : l ≠ l') :
    Line.Parted base body l l' ∨ Line.Parted base body l' l := by
  have hsymm : Std.Symm fun a b => Line.Parted base body a b ∨ Line.Parted base body b a :=
    ⟨fun _ _ => Or.symm⟩
  exact List.Pairwise.forall (R := fun a b => Line.Parted base body a b ∨ Line.Parted base body b a)
    (h.parted.imp Or.inl) hl hl' hne

/-- **A line does not reach into two lines.**  If two characters lie within one line and the
second of them is not blank, then a line with the first has the second too. -/
theorem contains_of_contains (h : SplitsInto base body ls) (h' : SplitsInto base body ls')
    (hl : l ∈ ls) (hl' : l' ∈ ls') (hi : l.span.Contains (base + i))
    (hi' : l'.span.Contains (base + i)) (hat : body.HasAt j d) (hd : Text.isBlank d = false)
    (hj' : l'.span.Contains (base + j)) : l.span.Contains (base + j) := by
  obtain ⟨k, hk, hj⟩ := h.exists_contains hat hd
  by_cases heq : l = k
  · rwa [heq]
  · exfalso
    -- the newline between `l` and `k` would stand in `l'`
    have hnewline : ∀ n, body.HasAt n '\n' → ¬ l'.span.Contains (base + n) := fun n hn hin =>
      h'.newline_not_mem l' hl' (h'.mem_text hl' hn hin).1
    unfold Span.Contains at *
    rcases h.parted_of_ne hl hk heq with ⟨n, hn, hstop, hstart⟩ | ⟨n, hn, hstop, hstart⟩
    · exact hnewline n hn (by omega)
    · exact hnewline n hn (by omega)

/-- A line begins and ends with characters of the body that are not blank. -/
theorem exists_ends (h : SplitsInto base body ls) (hl : l ∈ ls) :
    (∃ i c, body.HasAt i c ∧ Text.isBlank c = false ∧ l.span.Contains (base + i) ∧
        l.span.start = base + i) ∧
      ∃ j d, body.HasAt j d ∧ Text.isBlank d = false ∧ l.span.Contains (base + j) ∧
        l.span.stop = base + j + d.utf8Size := by
  have htrim := h.trimmed l hl
  obtain ⟨s, hspan, before, after, hbody, rfl⟩ := h.covers l hl
  rw [hspan]
  constructor
  · obtain ⟨c, rest, htext⟩ := List.exists_cons_of_ne_nil (h.text_ne_nil l hl)
    rw [htext] at htrim
    have hpos := c.utf8Size_pos
    refine ⟨Text.byteLength before, c, ?_, Text.isBlank_head_trim htrim, ?_, Nat.add_comm _ _⟩
    · have hat := Text.HasAt.of_piece before [] rest after c
      rwa [List.nil_append, ← htext, ← hbody] at hat
    · simp only [Span.Contains, Span.shift, Span.ofPiece, htext, Text.byteLength_cons]
      omega
  · obtain ⟨front, d, htext⟩ := List.eq_nil_or_concat' l.text |>.resolve_left (h.text_ne_nil l hl)
    rw [htext] at htrim
    refine ⟨Text.byteLength before + Text.byteLength front, d, ?_,
      Text.isBlank_last_of_trimmed htrim, ?_, ?_⟩
    · have hat := Text.HasAt.of_piece before front [] after d
      rwa [← htext, ← hbody] at hat
    · have hpos := d.utf8Size_pos
      simp only [Span.Contains, Span.shift, Span.ofPiece, htext, Text.byteLength_append,
        Text.byteLength_cons, Text.byteLength_nil]
      omega
    · simp only [Span.shift, Span.ofPiece, htext, Text.byteLength_append, Text.byteLength_cons,
        Text.byteLength_nil]
      omega

/-- Of two lines that share a character, the one covers the other. -/
theorem within_of_contains (h : SplitsInto base body ls) (h' : SplitsInto base body ls')
    (hl : l ∈ ls) (hl' : l' ∈ ls') (hi : l.span.Contains (base + i))
    (hi' : l'.span.Contains (base + i)) :
    l.span.start ≤ l'.span.start ∧ l'.span.stop ≤ l.span.stop := by
  obtain ⟨⟨j, c, hj, hc, hjin, hstart⟩, k, d, hk, hd, hkin, hstop⟩ := h'.exists_ends hl'
  have hfirst := h.contains_of_contains h' hl hl' hi hi' hj hc hjin
  have hlast := h.contains_of_contains h' hl hl' hi hi' hk hd hkin
  have hend := (h.mem_text hl hk hlast).2
  exact ⟨hstart ▸ hfirst.1, hstop ▸ hend⟩

/-- Lines of two lists that share a character are the same. -/
theorem eq_of_contains (h : SplitsInto base body ls) (h' : SplitsInto base body ls') (hl : l ∈ ls)
    (hl' : l' ∈ ls') (hi : l.span.Contains (base + i)) (hi' : l'.span.Contains (base + i)) :
    l = l' := by
  obtain ⟨hstart, hstop⟩ := h.within_of_contains h' hl hl' hi hi'
  obtain ⟨hstart', hstop'⟩ := h'.within_of_contains h hl' hl hi' hi
  obtain ⟨text, span⟩ := l
  obtain ⟨text', span'⟩ := l'
  obtain ⟨s, rfl, hcovers⟩ := h.covers _ hl
  obtain ⟨s', rfl, hcovers'⟩ := h'.covers _ hl'
  have hspan : s = s' := by
    obtain ⟨start, stop⟩ := s
    obtain ⟨start', stop'⟩ := s'
    simp only [Span.shift] at hstart hstop hstart' hstop'
    rw [Span.mk.injEq]
    omega
  subst hspan
  have htext : text = text' := hcovers.unique hcovers'
  rw [htext]

/-- **A body splits into lines in one way.** -/
theorem unique (h : SplitsInto base body ls) (h' : SplitsInto base body ls') : ls = ls' := by
  have hsub : ∀ {ls ls' : List Line}, SplitsInto base body ls → SplitsInto base body ls' →
      ls ⊆ ls' := by
    intro ls ls' h h' l hl
    obtain ⟨⟨i, c, hat, hc, hin, -⟩, -⟩ := h.exists_ends hl
    obtain ⟨l', hl', hin'⟩ := h'.exists_contains hat hc
    rwa [h.eq_of_contains h' hl hl' hin hin']
  have hirrefl : Std.Irrefl fun a b : Line => a.span.start < b.span.start :=
    ⟨fun _ => Nat.lt_irrefl _⟩
  have hantisymm : Std.Antisymm fun a b : Line => a.span.start < b.span.start :=
    ⟨fun _ _ hlt hgt => absurd hlt (Nat.lt_asymm hgt)⟩
  exact List.Subset.antisymm_of_pairwise (r := fun a b : Line => a.span.start < b.span.start)
    (h.in_order.imp And.left) (h'.in_order.imp And.left) (hsub h h') (hsub h' h)

end SplitsInto

/-- **Splitting a body into lines is exact.**  The lines that are read off a body are not
empty, trimmed and without newlines; relative to the body their spans lie on their texts, come
in order and do not overlap; what lies outside them is blank, with a newline between any two
lines.  There is no other list of lines with these properties.  The lines of a body that begins
at byte `base` of its source are those of the same body at its beginning, moved by `base`. -/
theorem lines_exact (base : Nat) (body : Text) :
    (∀ ls, SplitsInto base body ls ↔ ls = lines base body) ∧
      lines base body = (lines 0 body).map fun l => l.shift base := by
  constructor
  · intro ls
    constructor
    · exact fun h => h.unique (splitsInto_lines base body)
    · rintro rfl
      exact splitsInto_lines base body
  · have hmoved := lines_add 0 base body
    rwa [Nat.zero_add] at hmoved

end DiagramLint
