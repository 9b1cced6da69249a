import DiagramLint.Literal
import DiagramLint.Proofs.TextRuns

/-!
# Reading literals

`Literal.read?` and `Literal.text` determine each other: a literal is read off the
front of a text exactly when it is a valid one and the text begins with it
(`Literal.read?_eq_some_iff`).  Two consequences carry everything that is said
about extraction later.

* A text begins with at most one literal (`Literal.text_append_inj`).
* **Literals do not nest** (`Literal.eq_nil_of_text_eq`): no literal stands inside
  another one and behind its beginning.  Behind its colon a literal has exactly two
  delimiters.  A literal inside it would have its own colon behind that one and then
  two delimiters as well, the same two; but between a literal's colon and its first
  delimiter nothing is left but blanks, and a colon is not blank.
-/

namespace DiagramLint.Literal

/-- A body is read up to the first delimiter; there has to be something in it. -/
theorem readBody?_eq_some_iff {d : Char} {t body rest : Text} :
    readBody? d t = some (body, rest) ↔
      t = body ++ d :: rest ∧ d ∉ body ∧ body ≠ [] := by
  unfold readBody?
  constructor
  · intro h
    split at h
    · rename_i hpre hdrop
      obtain ⟨rfl, rfl⟩ := Prod.mk.inj (Option.some.inj h)
      obtain ⟨ht, hmem, -⟩ := Text.scan_ne_eq_iff.mp ⟨hpre, hdrop⟩
      exact ⟨ht, hmem, List.cons_ne_nil _ _⟩
    · cases h
  · rintro ⟨ht, hmem, hne⟩
    obtain ⟨c, body, rfl⟩ := List.exists_cons_of_ne_nil hne
    obtain ⟨hpre, hdrop⟩ := Text.scan_ne_eq_iff.mpr ⟨ht, hmem, rfl⟩
    rw [hpre, hdrop]

/-- What follows the field: the colon, the gap and the quoted body. -/
def tail (m : Marker) (l : Literal) : Text :=
  ':' :: l.gap ++ m.delimiter :: l.body ++ [m.delimiter]

theorem text_eq (m : Marker) (l : Literal) : l.text m = m.field ++ l.tail m := by
  simp [text, opening, tail]

theorem tail_append (m : Marker) (l : Literal) (rest : Text) :
    l.tail m ++ rest = ':' :: (l.gap ++ m.delimiter :: (l.body ++ m.delimiter :: rest)) := by
  simp [tail]

theorem text_ne_nil (m : Marker) (l : Literal) : l.text m ≠ [] := by
  simp [text]

theorem readTail?_eq_some_iff {m : Marker} {t : Text} {l : Literal} {rest : Text} :
    readTail? m.delimiter t = some (l, rest) ↔ l.Valid m ∧ t = l.tail m ++ rest := by
  obtain ⟨gap, body⟩ := l
  constructor
  · intro h
    unfold readTail? at h
    -- of all the ways to read a tail, one ends with a literal
    split at h
    · rename_i t
      split at h
      · rename_i c inner htrim
        split at h
        · rename_i hc
          subst hc
          obtain ⟨⟨body', after⟩, hbody, hpair⟩ := Option.map_eq_some_iff.mp h
          obtain ⟨hl, rfl⟩ := Prod.mk.inj hpair
          obtain ⟨rfl, rfl⟩ := Literal.mk.inj hl
          obtain ⟨rfl, hmem, hne⟩ := readBody?_eq_some_iff.mp hbody
          obtain ⟨ht, hgap, hblank⟩ := Text.scan_eq_iff.mp ⟨rfl, htrim⟩
          refine ⟨⟨hgap, hblank, hne, hmem⟩, ?_⟩
          rw [tail_append]
          exact congrArg (List.cons ':') ht
        · cases h
      · cases h
    · cases h
  · rintro ⟨⟨hgap, hblank, hne, hmem⟩, rfl⟩
    obtain ⟨hlead, htrim⟩ := Text.scan_eq_iff.mpr
      ⟨(rfl : gap ++ m.delimiter :: (body ++ m.delimiter :: rest) = _), hgap, hblank⟩
    have hbody := readBody?_eq_some_iff.mpr
      ⟨(rfl : body ++ m.delimiter :: rest = _), hmem, hne⟩
    rw [tail_append]
    simp [readTail?, Text.trimStart, Text.leading, hlead, htrim, hbody]

/-- **Reading inverts writing**: a literal is read off the front of a text exactly
when it is valid and the text begins with it. -/
theorem read?_eq_some_iff {m : Marker} {t : Text} {l : Literal} {rest : Text} :
    read? m t = some (l, rest) ↔ l.Valid m ∧ t = l.text m ++ rest := by
  rw [read?, Option.bind_eq_some_iff]
  simp only [Text.after?_eq_some_iff, readTail?_eq_some_iff, text_eq, List.append_assoc]
  constructor
  · rintro ⟨tail, rfl, hvalid, rfl⟩
    exact ⟨hvalid, rfl⟩
  · rintro ⟨hvalid, rfl⟩
    exact ⟨_, rfl, hvalid, rfl⟩

/-- A text begins with at most one literal. -/
theorem text_append_inj {m : Marker} {l l' : Literal} {rest rest' : Text}
    (hl : l.Valid m) (hl' : l'.Valid m) (h : l.text m ++ rest = l'.text m ++ rest') :
    l = l' := by
  have hread : read? m (l.text m ++ rest) = some (l, rest) := read?_eq_some_iff.mpr ⟨hl, rfl⟩
  have hread' : read? m (l.text m ++ rest) = some (l', rest') :=
    read?_eq_some_iff.mpr ⟨hl', h⟩
  rw [hread] at hread'
  exact (Prod.mk.inj (Option.some.inj hread')).1

/-! ## Literals do not nest -/

theorem Valid.delimiter_not_mem_gap {m : Marker} {l : Literal} (h : l.Valid m) :
    m.delimiter ∉ l.gap := by
  intro hmem
  have hblank := h.gap_blank m.delimiter hmem
  rw [h.delimiter_not_blank] at hblank
  cases hblank

theorem Valid.colon_not_mem_gap {m : Marker} {l : Literal} (h : l.Valid m) : ':' ∉ l.gap := by
  intro hmem
  have hblank := h.gap_blank ':' hmem
  rw [Text.isBlank_colon] at hblank
  cases hblank

/-- Behind its colon a literal has two delimiters. -/
theorem Valid.count_delimiter {m : Marker} {l : Literal} (h : l.Valid m) (rest : Text) :
    (l.gap ++ m.delimiter :: (l.body ++ m.delimiter :: rest)).count m.delimiter =
      rest.count m.delimiter + 2 := by
  have hgap := List.count_eq_zero.mpr h.delimiter_not_mem_gap
  have hbody := List.count_eq_zero.mpr h.delimiter_not_mem
  rw [List.count_append, List.count_cons_self, List.count_append, List.count_cons_self, hgap,
    hbody]
  omega

/-- No tail of a literal stands inside another tail and behind its beginning. -/
theorem eq_nil_of_tail_eq {m : Marker} {l l' : Literal} (hl : l.Valid m) (hl' : l'.Valid m)
    {x y : Text} (h : l.tail m = x ++ l'.tail m ++ y) : x = [] := by
  cases x with
  | nil => rfl
  | cons c x =>
    exfalso
    have hgap := hl.delimiter_not_mem_gap
    have hgap' := hl'.delimiter_not_mem_gap
    have h' : l.tail m ++ [] = c :: x ++ (l'.tail m ++ y) := by rw [List.append_nil, h]; simp
    rw [tail_append, tail_append, List.cons_append] at h'
    obtain ⟨-, h⟩ := List.cons.inj h'
    -- the inner literal has both delimiters, so none is left for `x` and the colon
    have hcount := congrArg (List.count m.delimiter) h
    rw [hl.count_delimiter, List.count_append, List.count_cons, hl'.count_delimiter,
      List.count_nil] at hcount
    have hx : m.delimiter ∉ x := List.count_eq_zero.mp (by omega)
    have hcolon : ':' ≠ m.delimiter := by
      intro heq
      rw [heq, beq_self_eq_true, if_pos rfl] at hcount
      omega
    -- so both gaps end at the same delimiter, the first one behind the colon
    have hfirst : m.delimiter ∉ x ++ ':' :: l'.gap := by
      simp only [List.mem_append, List.mem_cons, not_or]
      exact ⟨hx, hcolon.symm, hgap'⟩
    have hsplit : l.gap ++ m.delimiter :: (l.body ++ [m.delimiter]) =
        (x ++ ':' :: l'.gap) ++ m.delimiter :: (l'.body ++ m.delimiter :: y) := by
      rw [h]
      simp
    have hsame : l.gap = x ++ ':' :: l'.gap :=
      (Text.scan_ne_eq_iff.mpr ⟨rfl, hgap, rfl⟩).1.symm.trans
        (Text.scan_ne_eq_iff.mpr ⟨hsplit, hfirst, rfl⟩).1
    exact hl.colon_not_mem_gap (by rw [hsame]; simp)

/-- **Literals do not nest.**  If a literal stands in another one, it stands at its
beginning. -/
theorem eq_nil_of_text_eq {m : Marker} {l l' : Literal} (hl : l.Valid m) (hl' : l'.Valid m)
    {x y : Text} (h : l.text m = x ++ l'.text m ++ y) : x = [] := by
  -- cut as many characters off both sides as the field has
  have htail : l.tail m = (x ++ m.field).drop m.field.length ++ l'.tail m ++ y := by
    have hdrop := congrArg (List.drop m.field.length) h
    rw [text_eq, text_eq, List.drop_left] at hdrop
    rw [hdrop, show x ++ (m.field ++ l'.tail m) ++ y = (x ++ m.field) ++ (l'.tail m ++ y) by simp,
      List.drop_append_of_le_length (by simp), List.append_assoc]
  have hnil := eq_nil_of_tail_eq hl hl' htail
  have hlength := congrArg List.length hnil
  rw [List.length_drop, List.length_append, List.length_nil] at hlength
  exact List.eq_nil_of_length_eq_zero (by omega)

end DiagramLint.Literal
