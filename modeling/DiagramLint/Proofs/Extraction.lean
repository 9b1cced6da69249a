import DiagramLint.Block
import DiagramLint.Proofs.LiteralPlaces

/-!
# What extraction finds

`extractFrom` reads a source from left to right and carries the offset of what is
left, so its invariant speaks of the part that has been read: the source is that part
followed by the rest, and the offset is the length of that part in bytes.  Under it
the blocks are the leftmost literals from the offset on, numbered in order
(`exists_leftmost_extractFrom`).  As there is one list of leftmost literals, whatever
list of literals is shown to be leftmost gives the blocks (`extract_eq_of_leftmost`),
and no later proof looks at the search again.

The last theorem says what this means for the blocks of a source, without naming the
search at all.
-/

namespace DiagramLint

/-- The block of a literal at its place. -/
def Placed.block (m : Marker) (index : Nat) (p : Placed) : Block :=
  Block.ofRaw index (p.start + Text.byteLength (p.literal.opening m)) p.literal.body

/-- The blocks of literals, numbered in order. -/
def blocksFrom (m : Marker) (index : Nat) (ps : List Placed) : List Block :=
  ps.mapIdx fun k p => p.block m (index + k)

section
variable {m : Marker}

@[simp] theorem blocksFrom_nil (index : Nat) : blocksFrom m index [] = [] := rfl

theorem blocksFrom_cons (index : Nat) (p : Placed) (ps : List Placed) :
    blocksFrom m index (p :: ps) = p.block m index :: blocksFrom m (index + 1) ps := by
  simp [blocksFrom, List.mapIdx_cons, Nat.add_comm, Nat.add_left_comm]

theorem getElem?_blocksFrom (index k : Nat) (ps : List Placed) :
    (blocksFrom m index ps)[k]? = ps[k]?.map fun p => p.block m (index + k) := by
  simp [blocksFrom]

@[simp] theorem length_blocksFrom (index : Nat) (ps : List Placed) :
    (blocksFrom m index ps).length = ps.length := by
  simp [blocksFrom]

theorem blocksFrom_prefix {index : Nat} {ps qs : List Placed} (h : ps <+: qs) :
    blocksFrom m index ps <+: blocksFrom m index qs := by
  obtain ⟨rs, rfl⟩ := h
  rw [blocksFrom, blocksFrom, List.mapIdx_append]
  exact List.prefix_append _ _

/-! ## The scan -/

/-- Where nothing can be read, no literal stands. -/
theorem Placed.Occurs.start_ne_of_read?_eq_none {before t : Text} {q : Placed}
    (hread : Literal.read? m t = none) (hq : q.Occurs m (before ++ t)) :
    q.start ≠ Text.byteLength before := by
  intro hstart
  obtain ⟨before', after, hsource, hstart'⟩ := hq.split
  obtain ⟨-, ht⟩ := Text.append_inj_of_byteLength_eq hsource (hstart.symm.trans hstart')
  have hsome := Literal.read?_eq_some_iff.mpr ⟨hq.valid, ht⟩
  rw [hread] at hsome
  cases hsome

/-- Literals begin between characters. -/
theorem Placed.Occurs.le_start_of_lt {before t : Text} {c : Char} {q : Placed}
    (hq : q.Occurs m (before ++ c :: t)) (h : Text.byteLength before < q.start) :
    Text.byteLength before + c.utf8Size ≤ q.start := by
  obtain ⟨before', after, hsource, hstart⟩ := hq.split
  obtain ⟨z, hz, hrest⟩ := Text.exists_append_of_byteLength_le hsource (by omega)
  cases z with
  | nil =>
    rw [hz, List.append_nil] at hstart
    omega
  | cons d z =>
    obtain ⟨rfl, -⟩ := List.cons.inj hrest
    rw [hstart, hz, Text.byteLength_append, Text.byteLength_cons]
    omega

/-- **The invariant of the scan**: with `before` read and `t` left, the blocks are
those of the leftmost literals behind `before`. -/
theorem exists_leftmost_extractFrom (hfield : m.field ≠ []) (before t : Text)
    (offset index : Nat) (hoffset : offset = Text.byteLength before) :
    ∃ ps, Leftmost m (before ++ t) offset ps ∧
      extractFrom m offset index t = blocksFrom m index ps := by
  fun_induction extractFrom m offset index t generalizing before with
  | case1 offset index t l rest hread ih =>
    -- a literal is read: it is the first one, and the scan goes on behind it
    obtain ⟨hl, rfl⟩ := Literal.read?_eq_some_iff.mp hread
    obtain ⟨ps, hleft, hblocks⟩ := ih (before ++ l.text m) (by
      rw [hoffset, Text.byteLength_append])
    rw [List.append_assoc] at hleft
    refine ⟨⟨offset, l⟩ :: ps, ?_, ?_⟩
    · exact .next (hoffset ▸ Placed.Occurs.of_split hfield hl before rest) (Nat.le_refl _)
        (fun q _ hq => hq) hleft
    · rw [blocksFrom_cons, hblocks]
      rfl
  | case2 offset index hread =>
    -- nothing is left, and a literal is not empty
    refine ⟨[], .done fun q hq => ?_, rfl⟩
    have hstop := hq.covers.stop_le.2
    have hlt := q.start_lt_stop m
    rw [List.append_nil] at hstop
    omega
  | case3 offset index c t hread ih =>
    -- no literal begins at `c`, and none begins within it
    obtain ⟨ps, hleft, hblocks⟩ := ih (before ++ [c]) (by
      rw [hoffset, Text.byteLength_append]
      simp)
    rw [List.append_assoc, List.singleton_append] at hleft
    refine ⟨ps, hleft.of_le (Nat.le_add_right _ _) fun q hq hle => ?_, hblocks⟩
    have hne := hq.start_ne_of_read?_eq_none hread
    have hlt := hq.le_start_of_lt (by omega)
    omega

/-- Nothing occurs under an empty field. -/
theorem Leftmost.of_field_eq_nil (hfield : m.field = []) (source : Text) (cursor : Nat) :
    Leftmost m source cursor [] :=
  .done fun _ hq => absurd hfield hq.field_ne_nil

variable (m)

/-- **Extraction finds the leftmost literals** of a source, and numbers them from one. -/
theorem exists_leftmost_extract (source : Text) :
    ∃ ps, Leftmost m source 0 ps ∧ extract m source = blocksFrom m 1 ps := by
  by_cases hfield : m.field = []
  · exact ⟨[], .of_field_eq_nil hfield source 0, by simp [extract, hfield]⟩
  · obtain ⟨ps, hleft, hblocks⟩ := exists_leftmost_extractFrom hfield [] source 0 1 rfl
    exact ⟨ps, hleft, by rw [extract, if_neg hfield, hblocks]⟩

variable {m}

/-- A blank delimiter opens no literal. -/
theorem extract_eq_nil_of_blank (h : Text.isBlank m.delimiter = true) (source : Text) :
    extract m source = [] := by
  obtain ⟨ps, hleft, hblocks⟩ := exists_leftmost_extract m source
  cases ps with
  | nil => exact hblocks
  | cons p ps =>
    have hvalid := (hleft.occurs_of_mem List.mem_cons_self).1.valid
    rw [hvalid.delimiter_not_blank] at h
    cases h

/-- Literals that are leftmost give the blocks of the source. -/
theorem extract_eq_of_leftmost {source : Text} {ps : List Placed} (h : Leftmost m source 0 ps) :
    extract m source = blocksFrom m 1 ps := by
  obtain ⟨qs, hleft, hblocks⟩ := exists_leftmost_extract m source
  rw [hblocks, hleft.unique h]

/-- Text that is appended to a source only adds blocks at the end. -/
theorem extract_prefix_append (source more : Text) :
    extract m source <+: extract m (source ++ more) := by
  obtain ⟨qs, hleft, hblocks⟩ := exists_leftmost_extract m (source ++ more)
  obtain ⟨ps, hprefix, hleft'⟩ := hleft.exists_prefix
  rw [hblocks, extract_eq_of_leftmost hleft']
  exact blocksFrom_prefix hprefix

/-! ## The block of a literal -/

variable {source : Text} {p : Placed}

/-- The span of a block lies on its text. -/
theorem Placed.Occurs.covers_block (h : p.Occurs m source) (index : Nat) :
    (p.block m index).span.Covers source (Text.trim p.literal.body) := by
  obtain ⟨before, after, hsource, hstart⟩ := h.split
  refine ⟨before ++ p.literal.opening m ++ Text.leading p.literal.body,
    Text.trailing (Text.trimStart p.literal.body) ++ m.delimiter :: after, ?_, ?_⟩
  · rw [hsource, Literal.text]
    conv_lhs => rw [← Text.leading_append_trim_append p.literal.body]
    simp
  · simp only [Placed.block, Block.ofRaw, hstart, Text.byteLength_append]

/-- The span of a block lies between the delimiters. -/
theorem Placed.block_span_within (m : Marker) (index : Nat) (p : Placed) :
    p.start + Text.byteLength (p.literal.opening m) ≤ (p.block m index).span.start ∧
      (p.block m index).span.stop + m.delimiter.utf8Size ≤ (p.span m).stop := by
  have hbody := congrArg Text.byteLength (Text.leading_append_trim_append p.literal.body)
  simp only [Text.byteLength_append] at hbody
  simp only [Placed.block, Block.ofRaw, Span.ofPiece, Placed.stop_span, Literal.text,
    Literal.opening, Text.byteLength_append, Text.byteLength_cons, Text.byteLength_nil]
  omega

/-! ## The blocks of a source -/

theorem index_of_getElem?_extract {k : Nat} {b : Block} (h : (extract m source)[k]? = some b) :
    b.index = k + 1 := by
  obtain ⟨ps, -, hblocks⟩ := exists_leftmost_extract m source
  rw [hblocks, getElem?_blocksFrom] at h
  obtain ⟨p, -, rfl⟩ := Option.map_eq_some_iff.mp h
  exact Nat.add_comm 1 k

/-- The span of a block begins somewhere and has the length of its text, and it lies on
that text. -/
theorem span_of_mem_extract {b : Block} (h : b ∈ extract m source) :
    b.span = Span.ofPiece b.span.start b.body ∧ b.span.Covers source b.body := by
  obtain ⟨ps, hleft, hblocks⟩ := exists_leftmost_extract m source
  rw [hblocks] at h
  obtain ⟨k, hk, rfl⟩ := List.mem_mapIdx.mp h
  exact ⟨rfl, (hleft.occurs_of_mem (List.getElem_mem hk)).1.covers_block (1 + k)⟩

/-- **Blocks come in order**, with delimiters in between. -/
theorem pairwise_extract (m : Marker) (source : Text) :
    (extract m source).Pairwise fun a b => a.span.stop < b.span.start := by
  obtain ⟨ps, hleft, hblocks⟩ := exists_leftmost_extract m source
  rw [hblocks, blocksFrom, List.pairwise_iff_getElem]
  intro i j hi hj hij
  simp only [List.getElem_mapIdx, List.length_mapIdx] at hi hj ⊢
  -- the blocks lie within their literals, which come in order
  have hends := (ps[i].block_span_within m (1 + i)).2
  have hbegins := (ps[j].block_span_within m (1 + j)).1
  have hbetween := List.pairwise_iff_getElem.mp hleft.pairwise i j hi hj hij
  have hdelimiter := m.delimiter.utf8Size_pos
  omega

end

/-- **Extraction is sound, complete and leftmost.**  There are literals of the source,
one behind the other, such that block `k` is the trimmed body of literal `k` and its
span lies on that text between the delimiters; and wherever the source has a literal,
it begins within one of them. -/
theorem extract_sound_complete_leftmost (m : Marker) (source : Text) :
    ∃ places : List Placed,
      (∀ p ∈ places, p.Occurs m source ∧ p.start < (p.span m).stop) ∧
      places.Pairwise (fun p q => (p.span m).stop ≤ q.start) ∧
      (extract m source).length = places.length ∧
      (∀ (k : Nat) (p : Placed), places[k]? = some p →
        ∃ b, (extract m source)[k]? = some b ∧ b.index = k + 1 ∧
          b.body = Text.trim p.literal.body ∧ b.span.Covers source b.body ∧
          p.start + Text.byteLength (p.literal.opening m) ≤ b.span.start ∧
          b.span.stop + m.delimiter.utf8Size ≤ (p.span m).stop ∧
          ((∀ c ∈ p.literal.body, Text.isBlank c = true) → b.span.isEmpty = true)) ∧
      ∀ q : Placed, q.Occurs m source →
        ∃ p ∈ places, p.start ≤ q.start ∧ q.start < (p.span m).stop := by
  obtain ⟨ps, hleft, hblocks⟩ := exists_leftmost_extract m source
  refine ⟨ps, ?_, hleft.pairwise, ?_, ?_, ?_⟩
  · exact fun p hp => ⟨(hleft.occurs_of_mem hp).1, p.start_lt_stop m⟩
  · rw [hblocks, length_blocksFrom]
  · intro k p hk
    have hp := (hleft.occurs_of_mem (List.mem_of_getElem? hk)).1
    obtain ⟨hstart, hstop⟩ := p.block_span_within m (1 + k)
    refine ⟨p.block m (1 + k), ?_, Nat.add_comm 1 k, rfl, hp.covers_block (1 + k), hstart,
      hstop, ?_⟩
    · rw [hblocks, getElem?_blocksFrom, hk, Option.map_some]
    · intro hblank
      have hnil := Text.trim_eq_nil_iff.mpr hblank
      simp [Placed.block, Block.ofRaw, Span.ofPiece, Span.isEmpty, hnil]
  · exact fun q hq => hleft.covers hq (Nat.zero_le _)

end DiagramLint
