import DiagramLint.Proofs.EmbeddedLiterals

/-!
# Searching a source by its bytes

`extract` tries every character of a source in turn.  A search that keeps a byte offset
instead, its cursor, can leap: it cuts the source at the cursor, looks for the first
occurrence of the field in what is left, cuts the source again behind that field and reads
the rest of a literal there.  When there is one, the cursor moves behind its closing
delimiter, and otherwise it moves behind the first character of the field that was found.

Both cuts may go wrong, as an offset may lie outside the source or within a character, and
a search that leaps need not come to an end.  `Search.Pass` therefore has an outcome for a
cut that went wrong, and `Search.run` is limited to a number of passes.  Neither matters
(`field_search_ends`): the cursor is always a place where the source can be cut, every pass
takes it past a character, and within as many passes as the source has characters the
search ends with the blocks of the source.

All of this comes from one lemma about a single pass (`Search.Stands.pass_cases`).  Its invariant
is that the blocks found so far, and those that `extract` finds in what is left, are those
of the source.
-/

namespace DiagramLint

namespace Text

/-! ## Cutting a text at a byte -/

/-- The text can be cut at this offset: it lies between two characters or at an end. -/
def CutsAt (t : Text) (offset : Nat) : Prop :=
  ∃ front rest, t = front ++ rest ∧ offset = byteLength front

/-- What stands behind an offset, if the text can be cut there. -/
def dropBytes? : Nat → Text → Option Text
  | 0, t => some t
  | _ + 1, [] => none
  | n + 1, c :: t => if c.utf8Size ≤ n + 1 then dropBytes? (n + 1 - c.utf8Size) t else none

theorem dropBytes?_eq_some_iff {n : Nat} {t rest : Text} :
    dropBytes? n t = some rest ↔ ∃ front, t = front ++ rest ∧ n = byteLength front := by
  induction t generalizing n with
  | nil =>
    cases n with
    | zero => simp [dropBytes?, eq_comm]
    | succ n => simp [dropBytes?]
  | cons c t ih =>
    have hpos := c.utf8Size_pos
    cases n with
    | zero =>
      constructor
      · intro h
        obtain rfl := Option.some.inj h
        exact ⟨[], rfl, rfl⟩
      · rintro ⟨front, ht, hn⟩
        obtain rfl := byteLength_eq_zero.mp hn.symm
        exact congrArg some ht
    | succ n =>
      rw [dropBytes?]
      by_cases hle : c.utf8Size ≤ n + 1
      · rw [if_pos hle, ih]
        constructor
        · rintro ⟨front, rfl, hn⟩
          exact ⟨c :: front, rfl, by rw [byteLength_cons]; omega⟩
        · rintro ⟨front, ht, hn⟩
          cases front with
          | nil => rw [byteLength_nil] at hn; omega
          | cons d front =>
            obtain ⟨rfl, rfl⟩ := List.cons.inj ht
            rw [byteLength_cons] at hn
            exact ⟨front, rfl, by omega⟩
      · -- the cut would go through `c`
        rw [if_neg hle]
        constructor
        · intro h
          cases h
        · rintro ⟨front, ht, hn⟩
          cases front with
          | nil => rw [byteLength_nil] at hn; omega
          | cons d front =>
            obtain ⟨rfl, -⟩ := List.cons.inj ht
            rw [byteLength_cons] at hn
            omega

theorem dropBytes?_append (front rest : Text) :
    dropBytes? (byteLength front) (front ++ rest) = some rest :=
  dropBytes?_eq_some_iff.mpr ⟨front, rfl, rfl⟩

theorem CutsAt.le {t : Text} {offset : Nat} (h : t.CutsAt offset) : offset ≤ byteLength t := by
  obtain ⟨front, rest, rfl, rfl⟩ := h
  rw [byteLength_append]
  exact Nat.le_add_right _ _

/-! ## The first occurrence of a tag -/

/-- The number of bytes in front of the first occurrence of a tag. -/
def find? (tag : Text) : Text → Option Nat
  | [] => if tag = [] then some 0 else none
  | c :: t => if tag.isPrefixOf (c :: t) then some 0 else (find? tag t).map (c.utf8Size + ·)

variable {tag : Text}

theorem firstAtEnd_nil (tag : Text) : FirstAtEnd tag [] :=
  firstAtEnd_iff.mpr fun k hk => absurd hk (Nat.not_lt_zero k)

/-- A longer filler must not begin with the tag. -/
theorem firstAtEnd_cons_iff {c : Char} {filler : Text} :
    FirstAtEnd tag (c :: filler) ↔ ¬ tag <+: c :: (filler ++ tag) ∧ FirstAtEnd tag filler := by
  rw [firstAtEnd_iff, firstAtEnd_iff]
  constructor
  · intro h
    exact ⟨h 0 (Nat.succ_pos _), fun k hk => h (k + 1) (Nat.succ_lt_succ hk)⟩
  · rintro ⟨hhead, hrest⟩ k hk
    cases k with
    | zero => exact hhead
    | succ k => exact hrest k (Nat.lt_of_succ_lt_succ hk)

/-- Whether a text begins with the tag does not depend on what follows an occurrence. -/
theorem isPrefix_append_tag_iff (front rest : Text) :
    tag <+: front ++ (tag ++ rest) ↔ tag <+: front ++ tag := by
  rw [← List.append_assoc]
  refine ⟨fun h => ?_, fun h => h.trans (List.prefix_append _ _)⟩
  refine List.prefix_of_prefix_length_le h (List.prefix_append _ _) ?_
  rw [List.length_append]
  exact Nat.le_add_left _ _

/-- **The first occurrence is found**, with the number of bytes in front of it. -/
theorem exists_of_find?_eq_some {t : Text} {n : Nat} (h : find? tag t = some n) :
    ∃ front rest, t = front ++ (tag ++ rest) ∧ FirstAtEnd tag front ∧ n = byteLength front := by
  induction t generalizing n with
  | nil =>
    rw [find?] at h
    split at h
    · rename_i hnil
      obtain rfl := Option.some.inj h
      exact ⟨[], [], by rw [hnil]; rfl, firstAtEnd_nil tag, rfl⟩
    · cases h
  | cons c t ih =>
    rw [find?] at h
    split at h
    · rename_i hbegins
      obtain rfl := Option.some.inj h
      obtain ⟨rest, hrest⟩ := List.isPrefixOf_iff_prefix.mp hbegins
      exact ⟨[], rest, hrest.symm, firstAtEnd_nil tag, rfl⟩
    · rename_i hbegins
      obtain ⟨k, hk, rfl⟩ := Option.map_eq_some_iff.mp h
      obtain ⟨front, rest, rfl, hfirst, rfl⟩ := ih hk
      refine ⟨c :: front, rest, rfl, firstAtEnd_cons_iff.mpr ⟨fun hhead => ?_, hfirst⟩, rfl⟩
      rw [List.isPrefixOf_iff_prefix] at hbegins
      exact hbegins ((isPrefix_append_tag_iff (c :: front) rest).mpr hhead)

/-- When nothing is found, the tag does not occur. -/
theorem not_infix_of_find?_eq_none {t : Text} (h : find? tag t = none) : ¬ tag <:+: t := by
  induction t with
  | nil =>
    rw [find?] at h
    split at h
    · cases h
    · rename_i hne
      rwa [List.infix_nil]
  | cons c t ih =>
    rw [find?] at h
    split at h
    · cases h
    · rename_i hbegins
      rw [List.isPrefixOf_iff_prefix] at hbegins
      rw [List.infix_cons_iff]
      exact not_or.mpr ⟨hbegins, ih (Option.map_eq_none_iff.mp h)⟩

end Text

/-! ## Where there is no field, nothing is extracted -/

section
variable {m : Marker}

theorem Literal.read?_field_append (m : Marker) (behind : Text) :
    Literal.read? m (m.field ++ behind) = Literal.readTail? m.delimiter behind := by
  rw [Literal.read?, Text.after?_eq_some_iff.mpr rfl, Option.bind_some]

theorem Literal.read?_eq_none_of_not_prefix {t : Text} (h : ¬ m.field <+: t) :
    Literal.read? m t = none := by
  rw [Option.eq_none_iff_forall_not_mem]
  rintro ⟨l, rest⟩ hread
  obtain ⟨-, ht⟩ := Literal.read?_eq_some_iff.mp hread
  refine h ⟨l.tail m ++ rest, ?_⟩
  rw [ht, Literal.text_eq, List.append_assoc]

theorem extractFrom_of_not_infix {t : Text} (h : ¬ m.field <:+: t) (offset index : Nat) :
    extractFrom m offset index t = [] := by
  induction t generalizing offset with
  | nil => exact extractFrom_nil m offset index
  | cons c t ih =>
    rw [List.infix_cons_iff, not_or] at h
    rw [extractFrom_cons_of_read?_eq_none (Literal.read?_eq_none_of_not_prefix h.1), ih h.2]

/-- What stands in front of the first field is passed over. -/
theorem extractFrom_append_of_firstAtEnd {front : Text} (h : Text.FirstAtEnd m.field front)
    (rest : Text) (offset index : Nat) :
    extractFrom m offset index (front ++ (m.field ++ rest)) =
      extractFrom m (offset + Text.byteLength front) index (m.field ++ rest) := by
  induction front generalizing offset with
  | nil => rfl
  | cons c front ih =>
    obtain ⟨hhead, hfirst⟩ := Text.firstAtEnd_cons_iff.mp h
    have hbegins : ¬ m.field <+: c :: front ++ (m.field ++ rest) := fun hin =>
      hhead ((Text.isPrefix_append_tag_iff (c :: front) rest).mp hin)
    have hread := Literal.read?_eq_none_of_not_prefix hbegins
    rw [List.cons_append] at hread ⊢
    rw [extractFrom_cons_of_read?_eq_none hread, ih hfirst, Text.byteLength_cons, Nat.add_assoc]

end

/-! ## A search with a cursor -/

/-- How far a search has come. -/
structure Search where
  /-- The byte offset at which the search goes on. -/
  cursor : Nat
  /-- The blocks found so far. -/
  blocks : List Block
  deriving DecidableEq, Repr

namespace Search

/-- What comes of one pass of a search. -/
inductive Pass where
  /-- The source was to be cut at an offset where it cannot be cut. -/
  | torn (offset : Nat)
  /-- There is no field left. -/
  | finished
  | advanced (next : Search)
  deriving DecidableEq, Repr

def start : Search := ⟨0, []⟩

/-- The number of bytes that the cursor moves past a field without a literal: those of its
first character. -/
def fieldStep (m : Marker) : Nat := (m.field.head?.map Char.utf8Size).getD 0

/-- One pass: the first field behind the cursor, and the literal that it may begin. -/
def pass (m : Marker) (source : Text) (s : Search) : Pass :=
  match source.dropBytes? s.cursor with
  | none => .torn s.cursor
  | some ahead =>
      match Text.find? m.field ahead with
      | none => .finished
      | some found =>
          let fieldStart := s.cursor + found
          let fieldStop := fieldStart + Text.byteLength m.field
          match source.dropBytes? fieldStop with
          | none => .torn fieldStop
          | some behind =>
              match Literal.readTail? m.delimiter behind with
              | none => .advanced ⟨fieldStart + fieldStep m, s.blocks⟩
              | some (l, rest) =>
                  let opening := Text.byteLength (':' :: l.gap ++ [m.delimiter])
                  let block := Block.ofRaw (s.blocks.length + 1) (fieldStop + opening) l.body
                  .advanced ⟨fieldStop + (Text.byteLength behind - Text.byteLength rest),
                    s.blocks ++ [block]⟩

/-- The blocks that a search ends with, if no cut goes wrong and there are at most so many
passes that take the search further. -/
def run (m : Marker) (source : Text) : Nat → Search → Option (List Block)
  | 0, s =>
      match s.pass m source with
      | .finished => some s.blocks
      | _ => none
  | passes + 1, s =>
      match s.pass m source with
      | .torn _ => none
      | .finished => some s.blocks
      | .advanced next => run m source passes next

/-- A search has come to a state after some passes.  It does not begin under an empty
field. -/
inductive Reaches (m : Marker) (source : Text) : Nat → Search → Prop
  | start (hfield : m.field ≠ []) : Reaches m source 0 start
  | next {passes : Nat} {s next : Search} (h : Reaches m source passes s)
      (hpass : s.pass m source = .advanced next) : Reaches m source (passes + 1) next

/-- Under an empty field a search would not get anywhere. -/
example : start.pass ⟨[], '|'⟩ "ab".toList = .advanced start := by decide +kernel

/-- The search stands between what it has read and what is left, and its blocks are those of
the source up to there. -/
structure Stands (m : Marker) (source : Text) (s : Search) (before ahead : Text) : Prop where
  source_eq : source = before ++ ahead
  cursor_eq : s.cursor = Text.byteLength before
  blocks_eq : s.blocks ++ extractFrom m s.cursor (s.blocks.length + 1) ahead = extract m source

variable {m : Marker} {source before ahead front behind : Text} {s : Search}

theorem stands_start (hfield : m.field ≠ []) : start.Stands m source [] source :=
  ⟨rfl, rfl, by rw [extract, if_neg hfield]; rfl⟩

theorem Stands.cutsAt (h : s.Stands m source before ahead) : source.CutsAt s.cursor :=
  ⟨before, ahead, h.source_eq, h.cursor_eq⟩

/-- A pass that finds no field ends the search, and nothing is left to extract. -/
theorem Stands.pass_of_not_found (h : s.Stands m source before ahead)
    (hfind : Text.find? m.field ahead = none) :
    s.pass m source = .finished ∧ s.blocks = extract m source := by
  have hcut : source.dropBytes? s.cursor = some ahead := by
    rw [h.source_eq, h.cursor_eq, Text.dropBytes?_append]
  constructor
  · simp only [pass, hcut, hfind]
  · rw [← h.blocks_eq, extractFrom_of_not_infix (Text.not_infix_of_find?_eq_none hfind),
      List.append_nil]

/-- The blocks of what is left, when it begins with text that holds no field. -/
theorem Stands.blocks_at_field (h : s.Stands m source before (front ++ (m.field ++ behind)))
    (hfirst : Text.FirstAtEnd m.field front) :
    s.blocks ++ extractFrom m (s.cursor + Text.byteLength front) (s.blocks.length + 1)
      (m.field ++ behind) = extract m source := by
  rw [← extractFrom_append_of_firstAtEnd hfirst, h.blocks_eq]

/-- Both cuts of a pass that finds a field succeed. -/
theorem Stands.cuts (h : s.Stands m source before (front ++ (m.field ++ behind))) :
    source.dropBytes? s.cursor = some (front ++ (m.field ++ behind)) ∧
      source.dropBytes? (s.cursor + Text.byteLength front + Text.byteLength m.field) =
        some behind := by
  have hsplit : source = before ++ front ++ m.field ++ behind := by
    rw [h.source_eq]
    simp
  constructor
  · rw [h.cursor_eq, h.source_eq, Text.dropBytes?_append]
  · rw [h.cursor_eq, ← Text.byteLength_append, ← Text.byteLength_append, hsplit,
      Text.dropBytes?_append]

/-- Behind every field that is found the source can be cut. -/
theorem Stands.cutsAt_behind_field (h : s.Stands m source before ahead) {left : Text} {found : Nat}
    (hleft : source.dropBytes? s.cursor = some left)
    (hfind : Text.find? m.field left = some found) :
    source.CutsAt (s.cursor + found + Text.byteLength m.field) := by
  rw [h.cursor_eq, h.source_eq, Text.dropBytes?_append] at hleft
  obtain rfl := Option.some.inj hleft
  obtain ⟨front, behind, rfl, -, rfl⟩ := Text.exists_of_find?_eq_some hfind
  obtain ⟨front', hsplit, hoffset⟩ := Text.dropBytes?_eq_some_iff.mp h.cuts.2
  exact ⟨front', behind, hsplit, hoffset⟩

/-- Where a field begins no literal, the search goes on behind its first character. -/
theorem Stands.pass_of_field (hfield : m.field ≠ [])
    (h : s.Stands m source before (front ++ (m.field ++ behind)))
    (hfind : Text.find? m.field (front ++ (m.field ++ behind)) = some (Text.byteLength front))
    (hfirst : Text.FirstAtEnd m.field front)
    (htail : Literal.readTail? m.delimiter behind = none) :
    ∃ next read rest, s.pass m source = .advanced next ∧ read ≠ [] ∧
      next.Stands m source (before ++ read) rest := by
  obtain ⟨c, field, hc⟩ := List.exists_cons_of_ne_nil hfield
  obtain ⟨hcut, hcut'⟩ := h.cuts
  have hblocks := h.blocks_at_field hfirst
  have hread := (Literal.read?_field_append m behind).trans htail
  have hstep : fieldStep m = c.utf8Size := by
    rw [fieldStep, hc]
    rfl
  rw [hc, List.cons_append] at hread hblocks
  rw [extractFrom_cons_of_read?_eq_none hread] at hblocks
  refine ⟨⟨s.cursor + Text.byteLength front + fieldStep m, s.blocks⟩, front ++ [c],
    field ++ behind, ?_, by simp, ?_⟩
  · simp only [pass, hcut, hfind, hcut', htail]
  · exact {
      source_eq := by simp [h.source_eq, hc]
      cursor_eq := by simp [h.cursor_eq, hstep, Nat.add_assoc]
      blocks_eq := by rw [hstep]; exact hblocks }

/-- Where a field begins a literal, its block is found and the search goes on behind it. -/
theorem Stands.pass_of_literal {l : Literal} {rest : Text}
    (h : s.Stands m source before (front ++ (m.field ++ behind)))
    (hfind : Text.find? m.field (front ++ (m.field ++ behind)) = some (Text.byteLength front))
    (hfirst : Text.FirstAtEnd m.field front)
    (htail : Literal.readTail? m.delimiter behind = some (l, rest)) :
    ∃ next read rest, s.pass m source = .advanced next ∧ read ≠ [] ∧
      next.Stands m source (before ++ read) rest := by
  obtain ⟨hcut, hcut'⟩ := h.cuts
  have hblocks := h.blocks_at_field hfirst
  have hread := (Literal.read?_field_append m behind).trans htail
  obtain ⟨-, hbehind⟩ := Literal.readTail?_eq_some_iff.mp htail
  have hopening : Text.byteLength m.field + Text.byteLength (':' :: l.gap ++ [m.delimiter]) =
      Text.byteLength (l.opening m) := by
    simp [Literal.opening]
  have hstop : Text.byteLength m.field + (Text.byteLength behind - Text.byteLength rest) =
      Text.byteLength (l.text m) := by
    rw [hbehind, Literal.text_eq, Text.byteLength_append, Text.byteLength_append]
    omega
  rw [extractFrom_of_read? hread] at hblocks
  let block := Block.ofRaw (s.blocks.length + 1)
    (s.cursor + Text.byteLength front + Text.byteLength (l.opening m)) l.body
  refine ⟨⟨s.cursor + Text.byteLength front + Text.byteLength (l.text m), s.blocks ++ [block]⟩,
    front ++ l.text m, rest, ?_, by simp [Literal.text], ?_⟩
  · simp only [pass, hcut, hfind, hcut', htail]
    rw [Nat.add_assoc _ (Text.byteLength m.field), Nat.add_assoc _ (Text.byteLength m.field),
      hopening, hstop]
  · exact {
      source_eq := by simp [h.source_eq, hbehind, Literal.text_eq]
      cursor_eq := by simp [h.cursor_eq, Nat.add_assoc]
      blocks_eq := by simpa [block] using hblocks }

/-- **A pass either ends the search or takes it further**, past a character at least.  In
the first case all blocks have been found. -/
theorem Stands.pass_cases (hfield : m.field ≠ []) (h : s.Stands m source before ahead) :
    (s.pass m source = .finished ∧ s.blocks = extract m source) ∨
      ∃ next read rest, s.pass m source = .advanced next ∧ read ≠ [] ∧
        next.Stands m source (before ++ read) rest := by
  cases hfind : Text.find? m.field ahead with
  | none => exact Or.inl (h.pass_of_not_found hfind)
  | some found =>
    obtain ⟨front, behind, rfl, hfirst, rfl⟩ := Text.exists_of_find?_eq_some hfind
    right
    cases htail : Literal.readTail? m.delimiter behind with
    | none => exact h.pass_of_field hfield hfind hfirst htail
    | some pair => exact h.pass_of_literal hfind hfirst htail

/-! ## Whole searches -/

/-- **Every state of a search stands somewhere in the source**, with at least as many
characters read as there were passes. -/
theorem Reaches.exists_stands {passes : Nat} (h : Reaches m source passes s) :
    m.field ≠ [] ∧ ∃ before ahead, s.Stands m source before ahead ∧ passes ≤ before.length := by
  induction h with
  | start hfield => exact ⟨hfield, [], source, stands_start hfield, Nat.le_refl 0⟩
  | next _ hpass ih =>
    obtain ⟨hfield, before, ahead, hstands, hle⟩ := ih
    refine ⟨hfield, ?_⟩
    rcases hstands.pass_cases hfield with ⟨hfinished, -⟩ | ⟨next, read, rest, hnext, hne, hstands'⟩
    · rw [hpass] at hfinished
      cases hfinished
    · obtain rfl := Pass.advanced.inj (hpass.symm.trans hnext)
      have hpos := List.length_pos_iff.mpr hne
      refine ⟨before ++ read, rest, hstands', ?_⟩
      rw [List.length_append]
      omega

/-- A search that may take as many passes as there are characters left finds all blocks. -/
theorem Stands.run_eq (hfield : m.field ≠ []) (h : s.Stands m source before ahead) {passes : Nat}
    (hpasses : source.length ≤ before.length + passes) :
    run m source passes s = some (extract m source) := by
  induction passes generalizing s before ahead with
  | zero =>
    rcases h.pass_cases hfield with ⟨hpass, hblocks⟩ | ⟨next, read, rest, -, hne, hstands⟩
    · rw [run, hpass, hblocks]
    · -- all has been read, so there is no character to get past
      have hpos := List.length_pos_iff.mpr hne
      have hlength := congrArg List.length hstands.source_eq
      simp only [List.length_append] at hlength
      omega
  | succ passes ih =>
    rcases h.pass_cases hfield with ⟨hpass, hblocks⟩ | ⟨next, read, rest, hpass, hne, hstands⟩
    · rw [run, hpass, hblocks]
    · have hpos := List.length_pos_iff.mpr hne
      rw [run, hpass]
      refine ih hstands ?_
      rw [List.length_append]
      omega

/-- **The cursor gets past a character in every pass**, and no pass tears the source. -/
theorem Stands.progress (hfield : m.field ≠ []) (h : s.Stands m source before ahead) :
    (∀ offset, s.pass m source ≠ .torn offset) ∧
      ∀ next, s.pass m source = .advanced next →
        ∃ c rest, source = before ++ c :: rest ∧ s.cursor + c.utf8Size ≤ next.cursor := by
  rcases h.pass_cases hfield with ⟨hpass, -⟩ | ⟨next, read, rest, hpass, hne, hstands⟩
  · rw [hpass]
    exact ⟨fun _ => Pass.noConfusion, fun _ => Pass.noConfusion⟩
  · rw [hpass]
    refine ⟨fun _ => Pass.noConfusion, fun next' hnext => ?_⟩
    obtain rfl := Pass.advanced.inj hnext
    obtain ⟨c, read, rfl⟩ := List.exists_cons_of_ne_nil hne
    refine ⟨c, read ++ rest, by simp [hstands.source_eq], ?_⟩
    rw [hstands.cursor_eq, h.cursor_eq, Text.byteLength_append, Text.byteLength_cons]
    omega

end Search

/-- **The search for the field comes to an end and never tears the source.**  In every state
that it comes to, after no more passes than the source has characters, the source can be cut
at the cursor and behind the field that is found there, and if the pass takes the search
further the cursor gets past at least one whole character.  A search that may take as many
passes as the source has characters ends, with the blocks of the source.  Under an empty field
there are none, and no search begins. -/
theorem field_search_ends (m : Marker) (source : Text) :
    (∀ passes s, Search.Reaches m source passes s →
      passes ≤ source.length ∧ s.cursor ≤ Text.byteLength source ∧ source.CutsAt s.cursor ∧
      (∀ left found, source.dropBytes? s.cursor = some left →
        Text.find? m.field left = some found →
        source.CutsAt (s.cursor + found + Text.byteLength m.field)) ∧
      (∀ offset, s.pass m source ≠ .torn offset) ∧
      ∀ next, s.pass m source = .advanced next →
        ∃ front c rest, source = front ++ c :: rest ∧ s.cursor ≤ Text.byteLength front ∧
          Text.byteLength front + c.utf8Size ≤ next.cursor) ∧
    (m.field ≠ [] → Search.run m source source.length .start = some (extract m source)) ∧
    (m.field = [] → extract m source = [] ∧ ∀ passes s, ¬ Search.Reaches m source passes s) := by
  refine ⟨?_, ?_, ?_⟩
  · intro passes s hreaches
    obtain ⟨hfield, before, ahead, hstands, hle⟩ := hreaches.exists_stands
    obtain ⟨htorn, hprogress⟩ := hstands.progress hfield
    refine ⟨?_, hstands.cutsAt.le, hstands.cutsAt, fun left found => hstands.cutsAt_behind_field,
      htorn, ?_⟩
    · rw [hstands.source_eq, List.length_append]
      omega
    · intro next hnext
      obtain ⟨c, rest, hsource, hcursor⟩ := hprogress next hnext
      exact ⟨before, c, rest, hsource, hstands.cursor_eq.le, hstands.cursor_eq ▸ hcursor⟩
  · intro hfield
    exact (Search.stands_start hfield).run_eq hfield (Nat.le_add_left _ _)
  · intro hfield
    refine ⟨by rw [extract, if_pos hfield], ?_⟩
    intro passes s hreaches
    exact hreaches.exists_stands.1 hfield

/-- The field `éé` has characters of two bytes and overlaps itself: the first field begins no
literal, and the second one begins within the first. -/
theorem field_search_ends_of_overlappingFields :
    extract ⟨"éé".toList, '|'⟩ "ééé:|é|".toList = [⟨1, "é".toList, ⟨8, 10⟩⟩] ∧
    (∀ s, Search.Reaches ⟨"éé".toList, '|'⟩ "ééé:|é|".toList 1 s →
      Text.CutsAt "ééé:|é|".toList s.cursor) ∧
    Search.Reaches ⟨"éé".toList, '|'⟩ "ééé:|é|".toList 1 ⟨2, []⟩ ∧
    extract ⟨[], '|'⟩ "ééé:|é|".toList = [] := by
  have hfield : (⟨"éé".toList, '|'⟩ : Marker).field ≠ [] := by decide
  obtain ⟨hstates, hrun, -⟩ := field_search_ends ⟨"éé".toList, '|'⟩ "ééé:|é|".toList
  obtain ⟨-, -, hempty⟩ := field_search_ends ⟨[], '|'⟩ "ééé:|é|".toList
  refine ⟨?_, fun s hs => (hstates 1 s hs).2.2.1, ?_, (hempty rfl).1⟩
  · have hresult : Search.run ⟨"éé".toList, '|'⟩ "ééé:|é|".toList 7 .start =
        some [⟨1, "é".toList, ⟨8, 10⟩⟩] := by decide +kernel
    exact Option.some.inj ((hrun hfield).symm.trans hresult)
  · exact .next (.start hfield) (by decide +kernel)

end DiagramLint
