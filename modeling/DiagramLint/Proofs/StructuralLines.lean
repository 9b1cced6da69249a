import DiagramLint.Quadrant.Structure
import DiagramLint.Proofs.TextRuns

/-!
# What structural lines look like

`Structure.Declares` describes the shape of a text for each thing it can declare: the words
it begins with, or the name, the colon and the bracket of a data point.
`Structure.ofText?_eq_some_iff` says that a text is read as a declaration exactly when it
has the shape of one.

No text has two of the shapes.  The axis and quadrant words begin with different letters,
and each of them has a hyphen behind a single word, where the name of a data point would
still go on: a hyphen is no character of a name, and no colon stands in front of it
(`Structure.not_dataPoint_of_hyphen`).  So it makes no difference in which order the shapes
are tried (`Structure.findSome?_of_perm`).
-/

namespace DiagramLint.Structure

/-- The shape of a text that declares a structure. -/
def Declares : Structure → Text → Prop
  | xAxis, t => ∃ rest, t = xAxisWord ++ rest
  | yAxis, t => ∃ rest, t = yAxisWord ++ rest
  | quadrant digit, t => ∃ d rest, t = quadrantWord ++ d :: rest ∧ d.isDigit = true ∧
      d.toNat = '0'.toNat + digit
  | dataPoint, t => ∃ name gap rest, t = name ++ ':' :: (gap ++ '[' :: rest) ∧ name ≠ [] ∧
      (∀ c ∈ name, isWordOrBlank c = true) ∧ ∀ c ∈ gap, Text.isBlank c = true

variable {t : Text} {s : Structure}

theorem isWordOrBlank_colon : isWordOrBlank ':' = false := by decide +kernel

theorem isWordOrBlank_hyphen : isWordOrBlank '-' = false := by decide +kernel

/-! ## The readers of the shapes -/

theorem isSome_after?_iff {start : Text} :
    (Text.after? start t).isSome = true ↔ ∃ rest, t = start ++ rest := by
  rw [Option.isSome_iff_exists]
  simp only [Text.after?_eq_some_iff]

theorem digitValue_eq_iff {d : Char} (h : d.isDigit = true) {n : Nat} :
    Text.digitValue d = n ↔ d.toNat = '0'.toNat + n := by
  have hlow := (Char.isDigit_iff_toNat.mp h).1
  rw [Text.digitValue, if_pos h]
  omega

theorem quadrantDigit?_eq_some_iff {digit : Nat} :
    quadrantDigit? t = some digit ↔ (quadrant digit).Declares t := by
  unfold quadrantDigit?
  constructor
  · intro h
    split at h
    · rename_i d rest hafter
      split at h
      · rename_i hd
        refine ⟨d, rest, Text.after?_eq_some_iff.mp hafter, hd, ?_⟩
        exact (digitValue_eq_iff hd).mp (Option.some.inj h)
      · cases h
    · cases h
  · rintro ⟨d, rest, rfl, hd, hvalue⟩
    have hafter : Text.after? quadrantWord (quadrantWord ++ d :: rest) = some (d :: rest) :=
      Text.after?_eq_some_iff.mpr rfl
    simp only [hafter, if_pos hd, (digitValue_eq_iff hd).mpr hvalue]

/-- The name of a data point ends at the first character that is none of a name. -/
theorem isDataPoint_iff : isDataPoint t = true ↔ dataPoint.Declares t := by
  unfold isDataPoint
  constructor
  · intro h
    split at h
    · rename_i c name rest hname hcolon
      obtain ⟨ht, hword, -⟩ := Text.scan_eq_iff.mp ⟨hname, hcolon⟩
      have hbracket : (Text.trimStart rest).head? = some '[' := of_decide_eq_true h
      obtain ⟨after, hafter⟩ := List.head?_eq_some_iff.mp hbracket
      obtain ⟨hrest, hgap, -⟩ := Text.scan_eq_iff.mp ⟨rfl, hafter⟩
      exact ⟨c :: name, _, after, by rw [ht, ← hrest], List.cons_ne_nil c name, hword, hgap⟩
    · cases h
  · rintro ⟨name, gap, rest, rfl, hne, hword, hgap⟩
    obtain ⟨c, name, rfl⟩ := List.exists_cons_of_ne_nil hne
    obtain ⟨hname, hcolon⟩ := Text.scan_eq_iff.mpr
      ⟨(rfl : c :: name ++ ':' :: (gap ++ '[' :: rest) = _), hword, isWordOrBlank_colon⟩
    have hbracket : Text.trimStart (gap ++ '[' :: rest) = '[' :: rest :=
      (Text.scan_eq_iff.mpr ⟨rfl, hgap, by decide⟩).2
    rw [hname, hcolon]
    simp only [hbracket, List.head?_cons, decide_true]

/-! ## No text has two shapes -/

/-- A text with a hyphen behind its first characters of a name is no data point. -/
theorem not_dataPoint_of_hyphen {word rest : Text} (hword : ∀ c ∈ word, isWordOrBlank c = true) :
    ¬ dataPoint.Declares (word ++ '-' :: rest) := by
  rintro ⟨name, gap, after, hsplit, -, hname, -⟩
  rcases Text.append_cons_cases hsplit with ⟨-, heq, -⟩ | ⟨z, rfl, -⟩ | ⟨z, rfl, -⟩
  · exact absurd heq (by decide)
  · -- the name would hold the hyphen
    have hhyphen := hname '-' (by simp)
    rw [isWordOrBlank_hyphen] at hhyphen
    cases hhyphen
  · -- the colon would stand in front of the hyphen
    have hcolon := hword ':' (by simp)
    rw [isWordOrBlank_colon] at hcolon
    cases hcolon

theorem Declares.hyphen (h : s.Declares t) (hs : s ≠ dataPoint) :
    ∃ word rest, t = word ++ '-' :: rest ∧ ∀ c ∈ word, isWordOrBlank c = true := by
  cases s with
  | xAxis =>
    obtain ⟨rest, rfl⟩ := h
    have hword : ['x'].all isWordOrBlank = true := by decide +kernel
    exact ⟨['x'], _, rfl, List.all_eq_true.mp hword⟩
  | yAxis =>
    obtain ⟨rest, rfl⟩ := h
    have hword : ['y'].all isWordOrBlank = true := by decide +kernel
    exact ⟨['y'], _, rfl, List.all_eq_true.mp hword⟩
  | quadrant digit =>
    obtain ⟨d, rest, rfl, -, -⟩ := h
    have hword : ['q', 'u', 'a', 'd', 'r', 'a', 'n', 't'].all isWordOrBlank = true := by
      decide +kernel
    exact ⟨['q', 'u', 'a', 'd', 'r', 'a', 'n', 't'], _, rfl, List.all_eq_true.mp hword⟩
  | dataPoint => exact absurd rfl hs

/-- A data point has none of the other shapes. -/
theorem Declares.eq_dataPoint (h : s.Declares t) (hpoint : dataPoint.Declares t) :
    s = dataPoint := by
  by_contra hs
  obtain ⟨word, rest, rfl, hword⟩ := h.hyphen hs
  exact not_dataPoint_of_hyphen hword hpoint

/-- **A text is read as a declaration exactly when it has the shape of one.** -/
theorem ofText?_eq_some_iff : ofText? t = some s ↔ s.Declares t := by
  constructor
  · intro h
    unfold ofText? at h
    split at h
    · rename_i hx
      obtain rfl := Option.some.inj h
      exact isSome_after?_iff.mp hx
    · split at h
      · rename_i hy
        obtain rfl := Option.some.inj h
        exact isSome_after?_iff.mp hy
      · split at h
        · rename_i digit hdigit
          obtain rfl := Option.some.inj h
          exact quadrantDigit?_eq_some_iff.mp hdigit
        · split at h
          · rename_i hpoint
            obtain rfl := Option.some.inj h
            exact isDataPoint_iff.mp hpoint
          · cases h
  · intro h
    cases s with
    | xAxis => rw [ofText?, if_pos (isSome_after?_iff.mpr h)]
    | yAxis =>
      obtain ⟨rest, rfl⟩ := h
      rfl
    | quadrant digit =>
      have hdigit := quadrantDigit?_eq_some_iff.mpr h
      obtain ⟨d, rest, rfl, -, -⟩ := h
      have hx : (Text.after? xAxisWord (quadrantWord ++ d :: rest)).isSome = false := rfl
      have hy : (Text.after? yAxisWord (quadrantWord ++ d :: rest)).isSome = false := rfl
      simp only [ofText?, hx, hy, hdigit, Bool.false_eq_true, if_false]
    | dataPoint =>
      -- the earlier shapes are those of no data point
      have hx : ¬ (Text.after? xAxisWord t).isSome = true := fun hx =>
        absurd (Declares.eq_dataPoint (s := xAxis) (isSome_after?_iff.mp hx) h) (by decide)
      have hy : ¬ (Text.after? yAxisWord t).isSome = true := fun hy =>
        absurd (Declares.eq_dataPoint (s := yAxis) (isSome_after?_iff.mp hy) h) (by decide)
      have hdigit : quadrantDigit? t = none := by
        refine Option.eq_none_iff_forall_ne_some.mpr fun digit hdigit => ?_
        exact absurd ((quadrantDigit?_eq_some_iff.mp hdigit).eq_dataPoint h) (by simp)
      rw [ofText?, if_neg hx, if_neg hy, hdigit]
      simp only [isDataPoint_iff.mpr h, if_true]

/-- **No text declares two things.** -/
theorem Declares.unique {s' : Structure} (h : s.Declares t) (h' : s'.Declares t) : s = s' :=
  Option.some.inj ((ofText?_eq_some_iff.mpr h).symm.trans (ofText?_eq_some_iff.mpr h'))

theorem ofText?_eq_none_iff : ofText? t = none ↔ ∀ s : Structure, ¬ s.Declares t := by
  rw [Option.eq_none_iff_forall_ne_some]
  simp only [ne_eq, ofText?_eq_some_iff]

/-! ## The order in which the shapes are tried -/

/-- One reader for each shape. -/
def readers : List (Text → Option Structure) :=
  [fun t => (Text.after? xAxisWord t).map fun _ => xAxis,
    fun t => (Text.after? yAxisWord t).map fun _ => yAxis,
    fun t => (quadrantDigit? t).map quadrant,
    fun t => if isDataPoint t then some dataPoint else none]

/-- The readers find the shapes and nothing else. -/
theorem exists_mem_readers_iff : (∃ read ∈ readers, read t = some s) ↔ s.Declares t := by
  constructor
  · rintro ⟨read, hmem, hread⟩
    simp only [readers, List.mem_cons, List.not_mem_nil, or_false] at hmem
    rcases hmem with rfl | rfl | rfl | rfl
    · obtain ⟨rest, hrest, rfl⟩ := Option.map_eq_some_iff.mp hread
      exact ⟨rest, Text.after?_eq_some_iff.mp hrest⟩
    · obtain ⟨rest, hrest, rfl⟩ := Option.map_eq_some_iff.mp hread
      exact ⟨rest, Text.after?_eq_some_iff.mp hrest⟩
    · obtain ⟨digit, hdigit, rfl⟩ := Option.map_eq_some_iff.mp hread
      exact quadrantDigit?_eq_some_iff.mp hdigit
    · obtain ⟨hpoint, hs⟩ := Option.ite_none_right_eq_some.mp hread
      obtain rfl := Option.some.inj hs
      exact isDataPoint_iff.mp hpoint
  · intro h
    cases s with
    | xAxis =>
      obtain ⟨rest, hrest⟩ := h
      refine ⟨_, .head _, ?_⟩
      rw [Text.after?_eq_some_iff.mpr hrest, Option.map_some]
    | yAxis =>
      obtain ⟨rest, hrest⟩ := h
      refine ⟨_, .tail _ (.head _), ?_⟩
      rw [Text.after?_eq_some_iff.mpr hrest, Option.map_some]
    | quadrant digit =>
      refine ⟨_, .tail _ (.tail _ (.head _)), ?_⟩
      rw [quadrantDigit?_eq_some_iff.mpr h, Option.map_some]
    | dataPoint =>
      refine ⟨_, .tail _ (.tail _ (.tail _ (.head _))), ?_⟩
      rw [if_pos (isDataPoint_iff.mpr h)]

/-- **In whatever order the readers are tried, the first one that succeeds finds what the text
declares.** -/
theorem findSome?_of_perm {rs : List (Text → Option Structure)} (h : rs.Perm readers) :
    rs.findSome? (fun read => read t) = ofText? t := by
  have hsound : ∀ s, rs.findSome? (fun read => read t) = some s → s.Declares t := by
    intro s hs
    obtain ⟨read, hmem, hread⟩ := List.exists_of_findSome?_eq_some hs
    exact exists_mem_readers_iff.mp ⟨read, h.mem_iff.mp hmem, hread⟩
  cases hfound : rs.findSome? (fun read => read t) with
  | some s => exact (ofText?_eq_some_iff.mpr (hsound s hfound)).symm
  | none =>
    refine (ofText?_eq_none_iff.mpr fun s hs => ?_).symm
    obtain ⟨read, hmem, hread⟩ := exists_mem_readers_iff.mpr hs
    rw [List.findSome?_eq_none_iff.mp hfound read (h.mem_iff.mpr hmem)] at hread
    cases hread

/-- **The shapes of structural lines.**  A text is read as a declaration exactly when it has
the shape of one, and as none exactly when it has no such shape.  No text has the shapes of
two declarations, so trying the four readers in another order finds the same. -/
theorem structural_line_shapes (t : Text) :
    (∀ s : Structure, ofText? t = some s ↔ s.Declares t) ∧
      (ofText? t = none ↔ ∀ s : Structure, ¬ s.Declares t) ∧
      (∀ s s' : Structure, s.Declares t → s'.Declares t → s = s') ∧
      ∀ rs : List (Text → Option Structure), rs.Perm readers →
        rs.findSome? (fun read => read t) = ofText? t := by
  refine ⟨fun s => ofText?_eq_some_iff, ofText?_eq_none_iff, ?_, ?_⟩
  · intro s s' h h'
    exact h.unique h'
  · intro rs hperm
    exact findSome?_of_perm hperm

end DiagramLint.Structure
