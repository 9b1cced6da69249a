import DiagramLint.Proofs.Extraction
import DiagramLint.Proofs.SettingsValidity
import Mathlib.Data.List.Infix

/-!
# Literals that are embedded in other text

A text is put together from literals, each with some filler in front of it, and a tail.
Extraction finds exactly these literals again, whatever their bodies hold: a reader from
left to right who stands at a filler sees the field of its literal before any other
(`Text.FirstAtEnd`), reads the literal, and then stands at the next filler.

So the literals that were put in are the leftmost ones of the text
(`leftmost_embed`), with nothing said about literals that the bodies may hold besides.
-/

namespace DiagramLint

/-- In `filler ++ tag` the tag occurs at the end, and nowhere before. -/
def Text.FirstAtEnd (tag filler : Text) : Prop :=
  ∀ before after, filler ++ tag = before ++ tag ++ after → before = filler

/-- It is enough to look at the places in front of the end. -/
theorem Text.firstAtEnd_iff {tag filler : Text} :
    FirstAtEnd tag filler ↔ ∀ k < filler.length, ¬ tag <+: (filler ++ tag).drop k := by
  constructor
  · rintro h k hk ⟨after, hafter⟩
    have hsplit : filler ++ tag = (filler ++ tag).take k ++ tag ++ after := by
      rw [List.append_assoc, hafter, List.take_append_drop]
    have hlength := congrArg List.length (h _ _ hsplit)
    rw [List.length_take, List.length_append] at hlength
    omega
  · intro h before after hsplit
    have hlength := congrArg List.length hsplit
    simp only [List.length_append] at hlength
    rcases Nat.lt_or_ge before.length filler.length with hlt | hge
    · refine absurd ?_ (h _ hlt)
      rw [hsplit, List.append_assoc, List.drop_left]
      exact List.prefix_append tag after
    · -- nothing is left behind this occurrence, so it is the one at the end
      have hafter : after = [] := List.eq_nil_of_length_eq_zero (by omega)
      rw [hafter, List.append_nil] at hsplit
      exact (List.append_cancel_right hsplit).symm

instance (tag filler : Text) : Decidable (Text.FirstAtEnd tag filler) :=
  decidable_of_iff' _ Text.firstAtEnd_iff

/-- A literal and the text in front of it. -/
structure Embedded where
  filler : Text
  literal : Literal
  deriving DecidableEq, Repr

namespace Embedded

/-- The filler and the literal written out. -/
def text (m : Marker) (e : Embedded) : Text := e.filler ++ e.literal.text m

/-- The literal is one, apart from what the marker must see to, and its field comes first.
Nothing keeps the field, colons or newlines out of the body. -/
structure Sound (m : Marker) (e : Embedded) : Prop where
  gap_blank : ∀ c ∈ e.literal.gap, Text.isBlank c = true
  body_ne_nil : e.literal.body ≠ []
  delimiter_not_mem : m.delimiter ∉ e.literal.body
  field_first : Text.FirstAtEnd m.field e.filler

/-- The same, with nothing to decide about all characters. -/
theorem sound_iff {m : Marker} {e : Embedded} :
    e.Sound m ↔ e.literal.gap.all Text.isBlank = true ∧ e.literal.body ≠ [] ∧
      m.delimiter ∉ e.literal.body ∧ Text.FirstAtEnd m.field e.filler := by
  rw [List.all_eq_true]
  exact ⟨fun ⟨hgap, hne, hmem, hfirst⟩ => ⟨hgap, hne, hmem, hfirst⟩,
    fun ⟨hgap, hne, hmem, hfirst⟩ => ⟨hgap, hne, hmem, hfirst⟩⟩

instance (m : Marker) (e : Embedded) : Decidable (e.Sound m) := decidable_of_iff' _ sound_iff

theorem Sound.valid {m : Marker} {e : Embedded} (h : e.Sound m)
    (hblank : Text.isBlank m.delimiter = false) : e.literal.Valid m :=
  ⟨h.gap_blank, hblank, h.body_ne_nil, h.delimiter_not_mem⟩

end Embedded

/-- Embedded literals one behind the other, and a tail. -/
def embed (m : Marker) (es : List Embedded) (tail : Text) : Text :=
  es.flatMap (Embedded.text m) ++ tail

section
variable {m : Marker}

theorem embed_cons (e : Embedded) (es : List Embedded) (tail : Text) :
    embed m (e :: es) tail = e.filler ++ (e.literal.text m ++ embed m es tail) := by
  simp [embed, Embedded.text]

/-- The places of embedded literals, the first filler of which begins at byte `offset`. -/
def placesFrom (m : Marker) (offset : Nat) : List Embedded → List Placed
  | [] => []
  | e :: es =>
      ⟨offset + Text.byteLength e.filler, e.literal⟩ ::
        placesFrom m (offset + Text.byteLength (e.text m)) es

/-- The number of bytes in front of a literal that follows `es`. -/
theorem getElem?_placesFrom (offset k : Nat) (es : List Embedded) :
    (placesFrom m offset es)[k]? = es[k]?.map fun e =>
      ⟨offset + Text.byteLength ((es.take k).flatMap (Embedded.text m) ++ e.filler),
        e.literal⟩ := by
  induction es generalizing offset k with
  | nil => simp [placesFrom]
  | cons e es ih =>
    cases k with
    | zero => simp [placesFrom]
    | succ k => simp [placesFrom, ih, Nat.add_assoc]

/-- The field of a literal that begins behind `before` stands in the text behind it. -/
theorem Placed.Occurs.exists_field {before t : Text} {q : Placed} (hq : q.Occurs m (before ++ t))
    (hle : Text.byteLength before ≤ q.start) :
    ∃ x y, t = x ++ m.field ++ y ∧ q.start = Text.byteLength before + Text.byteLength x := by
  obtain ⟨front, back, hsource, hstart⟩ := hq.split
  obtain ⟨x, rfl, ht⟩ := Text.exists_append_of_byteLength_le hsource (by omega)
  refine ⟨x, q.literal.tail m ++ back, ?_, ?_⟩
  · rw [ht, Literal.text_eq]
    simp
  · rw [hstart, Text.byteLength_append]

/-- No literal begins within the filler in front of an embedded one. -/
theorem Embedded.Sound.le_start {e : Embedded} (he : e.Sound m) {before rest : Text}
    {q : Placed} (hq : q.Occurs m (before ++ (e.filler ++ (e.literal.text m ++ rest))))
    (hle : Text.byteLength before ≤ q.start) :
    Text.byteLength before + Text.byteLength e.filler ≤ q.start := by
  obtain ⟨x, y, hsplit, hstart⟩ := hq.exists_field hle
  rcases Nat.lt_or_ge (Text.byteLength x) (Text.byteLength e.filler) with hlt | hge
  · -- that field would end no later than the one of the literal
    have hfield : x ++ m.field ++ y =
        (e.filler ++ m.field) ++ (e.literal.tail m ++ rest) := by
      rw [← hsplit, Literal.text_eq]
      simp
    obtain ⟨z, hz, -⟩ := Text.exists_append_of_byteLength_le hfield (by
      rw [Text.byteLength_append, Text.byteLength_append]
      omega)
    rw [he.field_first x z hz] at hlt
    omega
  · omega

/-- **Embedded literals are the leftmost ones**, behind whatever has been read. -/
theorem leftmost_embed (hfield : m.field ≠ []) (hblank : Text.isBlank m.delimiter = false)
    {es : List Embedded} (hes : ∀ e ∈ es, e.Sound m) {tail : Text} (htail : ¬ m.field <:+: tail)
    (before : Text) :
    Leftmost m (before ++ embed m es tail) (Text.byteLength before)
      (placesFrom m (Text.byteLength before) es) := by
  induction es generalizing before with
  | nil =>
    refine .done fun q hq => ?_
    rcases Nat.lt_or_ge q.start (Text.byteLength before) with hlt | hge
    · exact hlt
    · obtain ⟨x, y, hsplit, -⟩ := hq.exists_field hge
      exact absurd ⟨x, y, hsplit.symm⟩ htail
  | cons e es ih =>
    obtain ⟨he, hes⟩ := List.forall_mem_cons.mp hes
    have hrest := ih hes (before ++ e.text m)
    rw [Text.byteLength_append, List.append_assoc] at hrest
    rw [embed_cons, placesFrom]
    refine .next ?_ (Nat.le_add_right _ _) (fun q hq hle => he.le_start hq hle) ?_
    · have hoccurs := Placed.Occurs.of_split hfield (he.valid hblank) (before ++ e.filler)
        (embed m es tail)
      rwa [Text.byteLength_append, List.append_assoc] at hoccurs
    · rw [Placed.stop_span, Nat.add_assoc, ← Text.byteLength_append]
      rwa [Embedded.text, List.append_assoc] at hrest

/-- What stands in front of the trimmed body of a literal that follows `es`. -/
def Embedded.front (m : Marker) (es : List Embedded) (e : Embedded) : Text :=
  es.flatMap (Embedded.text m) ++ e.filler ++ e.literal.opening m ++ Text.leading e.literal.body

/-- Where the trimmed body of a literal that follows `es` was put. -/
def Embedded.span (m : Marker) (es : List Embedded) (e : Embedded) : Span :=
  Span.ofPiece (Text.byteLength (e.front m es)) (Text.trim e.literal.body)

/-- The block of an embedded literal at its place. -/
theorem block_placesFrom (k index : Nat) (es : List Embedded) :
    ((placesFrom m 0 es)[k]?.map fun p => p.block m index) =
      es[k]?.map fun e => ⟨index, Text.trim e.literal.body, e.span m (es.take k)⟩ := by
  rw [getElem?_placesFrom, Option.map_map]
  refine congrArg (Option.map · es[k]?) (funext fun e => ?_)
  simp [Placed.block, Block.ofRaw, Embedded.span, Embedded.front, Nat.add_assoc]

end

/-- **Extraction undoes embedding.**  Under valid settings, literals that are embedded in
other text are found again, one block for each, in order and numbered from one.  Each block
has the trimmed body and the span at which it was embedded, whatever the bodies hold. -/
theorem extract_embed {s : Settings} (hs : s.Valid) {es : List Embedded}
    (hes : ∀ e ∈ es, e.Sound s.marker) {tail : Text} (htail : ¬ s.marker.field <:+: tail) :
    (extract s.marker (embed s.marker es tail) = es.mapIdx fun k e =>
        ⟨k + 1, Text.trim e.literal.body, e.span s.marker (es.take k)⟩) ∧
      ∀ (k : Nat) (e : Embedded), es[k]? = some e →
        (e.span s.marker (es.take k)).Covers (embed s.marker es tail)
          (Text.trim e.literal.body) := by
  have hleft := leftmost_embed hs.field_ne_nil hs.delimiter_not_blank hes htail []
  rw [List.nil_append, Text.byteLength_nil] at hleft
  constructor
  · rw [extract_eq_of_leftmost hleft]
    refine List.ext_getElem? fun k => ?_
    rw [getElem?_blocksFrom, block_placesFrom, List.getElem?_mapIdx, Nat.add_comm 1 k]
  · intro k e hk
    have hblock := block_placesFrom (m := s.marker) k 0 es
    rw [hk, Option.map_some, Option.map_eq_some_iff] at hblock
    obtain ⟨p, hp, hblock⟩ := hblock
    have hcovers := (hleft.occurs_of_mem (List.mem_of_getElem? hp)).1.covers_block 0
    rw [hblock] at hcovers
    have hbody : Text.trim p.literal.body = Text.trim e.literal.body := congrArg Block.body hblock
    rwa [hbody] at hcovers

/-- The field `abab` overlaps itself, the first body holds the beginning of another literal,
and the second body is blank. -/
theorem extract_embed_overlapping :
    extract ⟨"abab".toList, '|'⟩ "xaabab: \n| gantt\nabab: 'x' |ab abab:| |aba".toList =
      [⟨1, "gantt\nabab: 'x'".toList, ⟨11, 26⟩⟩, ⟨2, [], ⟨38, 38⟩⟩] := by
  have hs : Settings.Valid ⟨⟨"abab".toList, '|'⟩, Settings.defaultMetrics, 60⟩ :=
    Settings.valid_iff.mpr (by decide)
  have hes : ∀ e ∈ [⟨"xa".toList, ⟨" \n".toList, " gantt\nabab: 'x' ".toList⟩⟩,
      (⟨"ab ".toList, ⟨[], [' ']⟩⟩ : Embedded)], e.Sound ⟨"abab".toList, '|'⟩ := by
    decide
  have htail : ¬ "abab".toList <:+: "aba".toList := by decide
  exact (extract_embed hs hes htail).1

end DiagramLint
