import DiagramLint.Span
import DiagramLint.Proofs.LiteralReading

/-!
# Where literals stand

`Placed.Occurs` says that a literal stands at a byte offset of a source.  It speaks
about the source alone, not about a search: literals that occur may well overlap,
as the field may overlap itself and a body may hold the beginning of another
literal.

`Leftmost` picks from them what a reader from left to right comes across: the first
one behind the cursor, then the first one behind its closing delimiter, and so on
until none is left.  There is one such list for each source and cursor
(`Leftmost.unique`), and every literal of the source begins within one of its
members (`Leftmost.covers`).

Two literals that begin at the same place are the same
(`Placed.Occurs.eq_of_start_eq`), and of two that begin at different places the later
one also ends later (`Placed.Occurs.stop_lt_stop`), since literals do not nest.
Appending text to a source therefore only adds members to the end of the list
(`Leftmost.exists_prefix`): a literal that the longer source has in place of
something must end behind the shorter one, and then whatever begins behind it does
too.
-/

namespace DiagramLint

/-- A literal at a byte offset of a source. -/
@[ext]
structure Placed where
  /-- The offset of the field. -/
  start : Nat
  /-- What stands there. -/
  literal : Literal
  deriving DecidableEq, Repr

namespace Placed

/-- The bytes from the field to the closing delimiter. -/
def span (m : Marker) (p : Placed) : Span := Span.ofPiece p.start (p.literal.text m)

/-- The source has this literal at this place.  An empty field marks nothing, so
nothing occurs under it. -/
structure Occurs (m : Marker) (source : Text) (p : Placed) : Prop where
  field_ne_nil : m.field ≠ []
  valid : p.literal.Valid m
  covers : (p.span m).Covers source (p.literal.text m)

variable {m : Marker} {source : Text} {p q : Placed}

theorem stop_span (m : Marker) (p : Placed) :
    (p.span m).stop = p.start + Text.byteLength (p.literal.text m) := rfl

/-- A literal is not empty. -/
theorem start_lt_stop (m : Marker) (p : Placed) : p.start < (p.span m).stop := by
  have hne : Text.byteLength (p.literal.text m) ≠ 0 := fun h =>
    p.literal.text_ne_nil m (Text.byteLength_eq_zero.mp h)
  rw [stop_span]
  omega

/-- What stands in front of a literal and behind it. -/
theorem Occurs.split (h : p.Occurs m source) :
    ∃ before after, source = before ++ (p.literal.text m ++ after) ∧
      p.start = Text.byteLength before := by
  obtain ⟨before, after, hsource, hspan⟩ := h.covers
  exact ⟨before, after, by rw [hsource, List.append_assoc], congrArg Span.start hspan⟩

theorem Occurs.of_split {l : Literal} (hfield : m.field ≠ []) (hl : l.Valid m)
    (before after : Text) :
    Occurs m (before ++ (l.text m ++ after)) ⟨Text.byteLength before, l⟩ :=
  ⟨hfield, hl, before, after, by rw [List.append_assoc], rfl⟩

/-- Literals stay where they are when text is appended. -/
theorem Occurs.append (h : p.Occurs m source) (more : Text) : p.Occurs m (source ++ more) := by
  obtain ⟨before, after, hsource, hspan⟩ := h.covers
  exact ⟨h.field_ne_nil, h.valid, before, after ++ more, by rw [hsource]; simp, hspan⟩

/-- A literal that ends within the front part of a source stands in that part. -/
theorem Occurs.of_append {more : Text} (h : p.Occurs m (source ++ more))
    (hstop : (p.span m).stop ≤ Text.byteLength source) : p.Occurs m source := by
  obtain ⟨before, after, hsplit, hspan⟩ := h.covers
  have hle : Text.byteLength (before ++ p.literal.text m) ≤ Text.byteLength source := by
    rw [hspan] at hstop
    rwa [Text.byteLength_append]
  obtain ⟨z, hz, -⟩ := Text.exists_append_of_byteLength_le hsplit.symm hle
  exact ⟨h.field_ne_nil, h.valid, before, z, hz, hspan⟩

/-- At each place stands at most one literal. -/
theorem Occurs.eq_of_start_eq (hp : p.Occurs m source) (hq : q.Occurs m source)
    (h : p.start = q.start) : p = q := by
  obtain ⟨before, after, hsource, hstart⟩ := hp.split
  obtain ⟨before', after', hsource', hstart'⟩ := hq.split
  -- what stands in front of both is the same, so the rest begins with both
  obtain ⟨rfl, hrest⟩ := Text.append_inj_of_byteLength_eq (hsource.symm.trans hsource')
    (by omega)
  exact Placed.ext h (Literal.text_append_inj hp.valid hq.valid hrest)

/-- **A literal that begins later ends later.**  Otherwise it would stand inside the
other one, behind its beginning. -/
theorem Occurs.stop_lt_stop (hp : p.Occurs m source) (hq : q.Occurs m source)
    (h : p.start < q.start) : (p.span m).stop < (q.span m).stop := by
  obtain ⟨before, after, hsource, hstart⟩ := hp.split
  obtain ⟨before', after', hsource', hstart'⟩ := hq.split
  obtain ⟨x, rfl, hrest⟩ := Text.exists_append_of_byteLength_le (hsource.symm.trans hsource')
    (by omega)
  rcases Nat.lt_or_ge (p.span m).stop (q.span m).stop with hlt | hge
  · exact hlt
  · exfalso
    -- `q` ends no later than `p`, so it stands inside `p`
    rw [stop_span, stop_span, hstart', Text.byteLength_append] at hge
    have hinside : x ++ q.literal.text m ++ after' = p.literal.text m ++ after := by
      rw [hrest]
      simp
    obtain ⟨y, hy, -⟩ := Text.exists_append_of_byteLength_le hinside (by
      rw [Text.byteLength_append]
      omega)
    have hx := Literal.eq_nil_of_text_eq hp.valid hq.valid hy
    rw [hx, Text.byteLength_append, Text.byteLength_nil] at hstart'
    omega

end Placed

/-! ## The literals a reader comes across -/

/-- The literals of a source that a reader from left to right comes across behind the
cursor: always the first one that is left, then those behind its end. -/
inductive Leftmost (m : Marker) (source : Text) : Nat → List Placed → Prop where
  /-- No literal begins at the cursor or behind it. -/
  | done {cursor : Nat} (none_left : ∀ q : Placed, q.Occurs m source → q.start < cursor) :
      Leftmost m source cursor []
  /-- `p` is the first literal behind the cursor. -/
  | next {cursor : Nat} {p : Placed} {ps : List Placed} (occurs : p.Occurs m source)
      (cursor_le : cursor ≤ p.start)
      (first : ∀ q : Placed, q.Occurs m source → cursor ≤ q.start → p.start ≤ q.start)
      (rest : Leftmost m source (p.span m).stop ps) : Leftmost m source cursor (p :: ps)

namespace Leftmost

variable {m : Marker} {source : Text} {cursor : Nat} {ps qs : List Placed}

/-- Every member stands in the source, behind the cursor. -/
theorem occurs_of_mem (h : Leftmost m source cursor ps) {p : Placed} (hp : p ∈ ps) :
    p.Occurs m source ∧ cursor ≤ p.start := by
  induction h with
  | done => cases hp
  | @next cursor p' ps occurs cursor_le _ _ ih =>
    rcases List.mem_cons.mp hp with rfl | hp
    · exact ⟨occurs, cursor_le⟩
    · obtain ⟨hoccurs, hle⟩ := ih hp
      have hlt := p'.start_lt_stop m
      exact ⟨hoccurs, by omega⟩

/-- Each member begins where an earlier one has ended, or later. -/
theorem pairwise (h : Leftmost m source cursor ps) :
    ps.Pairwise fun p q => (p.span m).stop ≤ q.start := by
  induction h with
  | done => exact List.Pairwise.nil
  | next _ _ _ rest ih => exact List.pairwise_cons.mpr ⟨fun q hq => (rest.occurs_of_mem hq).2, ih⟩

/-- **No literal is missed**: each one behind the cursor begins within a member. -/
theorem covers (h : Leftmost m source cursor ps) {q : Placed} (hq : q.Occurs m source)
    (hle : cursor ≤ q.start) : ∃ p ∈ ps, p.start ≤ q.start ∧ q.start < (p.span m).stop := by
  induction h with
  | done none_left =>
    have hlt := none_left q hq
    omega
  | @next cursor p ps _ _ first _ ih =>
    rcases Nat.lt_or_ge q.start (p.span m).stop with hlt | hge
    · exact ⟨p, List.mem_cons_self, first q hq hle, hlt⟩
    · obtain ⟨p', hmem, hp'⟩ := ih hge
      exact ⟨p', List.mem_cons_of_mem p hmem, hp'⟩

/-- **There is one such list.** -/
theorem unique (h : Leftmost m source cursor ps) (h' : Leftmost m source cursor qs) : ps = qs := by
  induction h generalizing qs with
  | done none_left =>
    cases h' with
    | done => rfl
    | next occurs cursor_le =>
      have hlt := none_left _ occurs
      omega
  | next occurs cursor_le first _ ih =>
    cases h' with
    | done none_left =>
      have hlt := none_left _ occurs
      omega
    | next occurs' cursor_le' first' rest' =>
      have hle := first _ occurs' cursor_le'
      have hge := first' _ occurs cursor_le
      obtain rfl := occurs.eq_of_start_eq occurs' (Nat.le_antisymm hle hge)
      rw [ih rest']

/-- The cursor may stand further to the left when no literal begins in between. -/
theorem of_le {cursor' : Nat} (h : Leftmost m source cursor ps) (hle : cursor' ≤ cursor)
    (hskip : ∀ q : Placed, q.Occurs m source → cursor' ≤ q.start → cursor ≤ q.start) :
    Leftmost m source cursor' ps := by
  cases h with
  | done none_left =>
    refine .done fun q hq => ?_
    rcases Nat.lt_or_ge q.start cursor' with hlt | hge
    · exact hlt
    · exact absurd (none_left q hq) (Nat.not_lt.mpr (hskip q hq hge))
  | next occurs cursor_le first rest =>
    exact .next occurs (by omega) (fun q hq hge => first q hq (hskip q hq hge)) rest

/-- **Appended text adds members at the end only.** -/
theorem exists_prefix {more : Text} (h : Leftmost m (source ++ more) cursor qs) :
    ∃ ps, ps <+: qs ∧ Leftmost m source cursor ps := by
  induction h with
  | done none_left =>
    exact ⟨[], List.nil_prefix, .done fun q hq => none_left q (hq.append more)⟩
  | @next cursor p ps occurs cursor_le first _ ih =>
    by_cases hstop : (p.span m).stop ≤ Text.byteLength source
    · -- `p` stands in the shorter source already, and is its first literal too
      obtain ⟨ps', hprefix, hleft⟩ := ih
      exact ⟨p :: ps', List.cons_prefix_cons.mpr ⟨rfl, hprefix⟩,
        .next (occurs.of_append hstop) cursor_le (fun q hq => first q (hq.append more)) hleft⟩
    · -- `p` ends in the appended text, and so would any literal behind it
      refine ⟨[], List.nil_prefix, .done fun q hq => ?_⟩
      rcases Nat.lt_or_ge q.start cursor with hlt | hge
      · exact hlt
      · exfalso
        have hq' := hq.append more
        have hin : (q.span m).stop ≤ Text.byteLength source := hq.covers.stop_le.2
        rcases Nat.lt_or_eq_of_le (first q hq' hge) with hlt | heq
        · have hlater := occurs.stop_lt_stop hq' hlt
          omega
        · obtain rfl := occurs.eq_of_start_eq hq' heq
          omega

end Leftmost

end DiagramLint
