import DiagramLint.Text.Bytes
import Mathlib.Data.List.TakeWhile
import Mathlib.Tactic.Conv

/-!
# Runs of characters

Everything the library reads, it reads by scanning a run of characters and looking
at the one that stops the run.  `scan_eq_iff` says once what such a scan finds, and
the readers are inverted through it.

The rest is about blank characters.  Trimming is determined by three facts: a
blank character at either end does not matter (`trim_cons_blank`,
`trim_concat_blank`), and a text with nothing else in it becomes empty
(`trim_eq_nil_iff`).  The first word does not look past a blank character behind it
(`firstWord_append_cons`), which is why trimming keeps it (`firstWord_trim`).
-/

namespace DiagramLint.Text

/-- **Where a scan stops.**  A scan by `p` returns `pre` and stops at `c` exactly
when `pre` satisfies `p` throughout and `c` is the first character that does not. -/
theorem scan_eq_iff {p : Char → Bool} {t pre rest : Text} {c : Char} :
    t.takeWhile p = pre ∧ t.dropWhile p = c :: rest ↔
      t = pre ++ c :: rest ∧ (∀ x ∈ pre, p x = true) ∧ p c = false := by
  constructor
  · rintro ⟨rfl, hdrop⟩
    refine ⟨?_, fun x hx => List.mem_takeWhile_imp hx, ?_⟩
    · rw [← hdrop, List.takeWhile_append_dropWhile]
    · have hne : t.dropWhile p ≠ [] := by rw [hdrop]; exact List.cons_ne_nil c rest
      have hhead := List.head_dropWhile_not p hne
      simpa only [hdrop, List.head_cons] using hhead
  · rintro ⟨rfl, hpre, hc⟩
    rw [List.takeWhile_append_of_pos hpre, List.dropWhile_append_of_pos hpre]
    simp [hc]

/-- A scan for a delimiter stops at the first one. -/
theorem scan_ne_eq_iff {t pre rest : Text} {c d : Char} :
    t.takeWhile (fun x => x ≠ d) = pre ∧ t.dropWhile (fun x => x ≠ d) = c :: rest ↔
      t = pre ++ d :: rest ∧ d ∉ pre ∧ c = d := by
  rw [scan_eq_iff]
  simp only [decide_eq_true_eq, decide_eq_false_iff_not, not_not]
  constructor
  · rintro ⟨rfl, hpre, rfl⟩
    exact ⟨rfl, fun hmem => hpre c hmem rfl, rfl⟩
  · rintro ⟨rfl, hpre, rfl⟩
    exact ⟨rfl, fun x hx hxc => hpre (hxc ▸ hx), rfl⟩

/-- Two ways to split a text, the first split in front of the second. -/
theorem exists_append_of_byteLength_le {a b x y : Text} (h : a ++ x = b ++ y)
    (hle : byteLength a ≤ byteLength b) : ∃ z, b = a ++ z ∧ x = z ++ y := by
  rcases List.append_eq_append_iff.mp h with ⟨z, hb, hx⟩ | ⟨z, ha, hy⟩
  · exact ⟨z, hb, hx⟩
  · have hz : z = [] := byteLength_eq_zero.mp (by
      rw [ha, byteLength_append] at hle
      omega)
    subst hz
    exact ⟨[], by rw [ha]; simp, by rw [hy]; simp⟩

/-- A text splits in one way at a given byte. -/
theorem append_inj_of_byteLength_eq {a b x y : Text} (h : a ++ x = b ++ y)
    (heq : byteLength a = byteLength b) : a = b ∧ x = y := by
  obtain ⟨z, rfl, rfl⟩ := exists_append_of_byteLength_le h heq.le
  have hz : z = [] := byteLength_eq_zero.mp (by
    rw [byteLength_append] at heq
    omega)
  subst hz
  exact ⟨by simp, by simp⟩

/-- Two characters of a text stand at the same place, or one in front of the other. -/
theorem append_cons_cases {a b x y : Text} {c d : Char} (h : a ++ c :: x = b ++ d :: y) :
    (a = b ∧ c = d ∧ x = y) ∨ (∃ z, b = a ++ c :: z ∧ x = z ++ d :: y) ∨
      ∃ z, a = b ++ d :: z ∧ y = z ++ c :: x := by
  rcases List.append_eq_append_iff.mp h with ⟨z, hb, hx⟩ | ⟨z, ha, hy⟩
  · cases z with
    | nil =>
      obtain ⟨hcd, hxy⟩ := List.cons.inj hx
      rw [List.append_nil] at hb
      exact Or.inl ⟨hb.symm, hcd, hxy⟩
    | cons e z =>
      obtain ⟨rfl, hxz⟩ := List.cons.inj hx
      exact Or.inr (Or.inl ⟨z, hb, hxz⟩)
  · cases z with
    | nil =>
      obtain ⟨hdc, hyx⟩ := List.cons.inj hy
      rw [List.append_nil] at ha
      exact Or.inl ⟨ha, hdc.symm, hyx.symm⟩
    | cons e z =>
      obtain ⟨rfl, hyz⟩ := List.cons.inj hy
      exact Or.inr (Or.inr ⟨z, ha, hyz⟩)

/-! ## Trimming -/

@[simp] theorem isBlank_newline : isBlank '\n' = true := by decide

@[simp] theorem isBlank_return : isBlank '\r' = true := by decide

@[simp] theorem isBlank_colon : isBlank ':' = false := by decide

theorem trimStart_eq_nil_iff {t : Text} : trimStart t = [] ↔ ∀ c ∈ t, isBlank c = true :=
  List.dropWhile_eq_nil_iff

theorem trimEnd_eq_nil_iff {t : Text} : trimEnd t = [] ↔ ∀ c ∈ t, isBlank c = true := by
  rw [trimEnd, List.reverse_eq_nil_iff, List.dropWhile_eq_nil_iff]
  simp only [List.mem_reverse]

theorem isBlank_of_mem_leading {t : Text} {c : Char} (h : c ∈ leading t) : isBlank c = true :=
  List.mem_takeWhile_imp h

theorem isBlank_of_mem_trailing {t : Text} {c : Char} (h : c ∈ trailing t) :
    isBlank c = true :=
  List.mem_takeWhile_imp (List.mem_reverse.mp h)

theorem trimStart_append_of_blank {x : Text} (hx : ∀ c ∈ x, isBlank c = true) (y : Text) :
    trimStart (x ++ y) = trimStart y :=
  List.dropWhile_append_of_pos hx

theorem trimStart_append_of_not_blank {x : Text} (hx : trimStart x ≠ []) (y : Text) :
    trimStart (x ++ y) = trimStart x ++ y := by
  unfold trimStart at hx ⊢
  rw [List.dropWhile_append]
  simp [List.isEmpty_iff, hx]

theorem trimEnd_concat_blank {c : Char} (h : isBlank c = true) (t : Text) :
    trimEnd (t ++ [c]) = trimEnd t := by
  simp [trimEnd, h]

/-- **A text is trimmed away exactly when it is blank.** -/
theorem trim_eq_nil_iff {t : Text} : trim t = [] ↔ ∀ c ∈ t, isBlank c = true := by
  rw [trim, trimEnd_eq_nil_iff]
  constructor
  · intro h c hc
    rw [← leading_append_trimStart t] at hc
    rcases List.mem_append.mp hc with hlead | hrest
    · exact isBlank_of_mem_leading hlead
    · exact h c hrest
  · intro h c hc
    exact h c ((List.dropWhile_sublist isBlank).subset hc)

theorem trim_cons_blank {c : Char} (h : isBlank c = true) (t : Text) :
    trim (c :: t) = trim t := by
  simp [trim, trimStart, h]

theorem trim_concat_blank {c : Char} (h : isBlank c = true) (t : Text) :
    trim (t ++ [c]) = trim t := by
  by_cases ht : trimStart t = []
  · have hblank := trimStart_eq_nil_iff.mp ht
    have hnil : trimStart [c] = [] := by simp [trimStart, h]
    rw [trim, trim, trimStart_append_of_blank hblank, hnil, ht]
  · rw [trim, trim, trimStart_append_of_not_blank ht, trimEnd_concat_blank h]

/-- The characters of the trimmed text are characters of the text. -/
theorem mem_of_mem_trim {t : Text} {c : Char} (h : c ∈ trim t) : c ∈ t := by
  rw [← leading_append_trim_append t]
  simp [h]

/-- A trimmed text begins with a character that is not blank. -/
theorem isBlank_head_trim {t rest : Text} {c : Char} (h : trim t = c :: rest) :
    isBlank c = false := by
  have hstart : trimStart t = c :: (rest ++ trailing (trimStart t)) := by
    rw [← List.cons_append, ← h, trim, trimEnd_append_trailing]
  exact (scan_eq_iff.mp ⟨rfl, hstart⟩).2.2

theorem trimStart_trim (t : Text) : trimStart (trim t) = trim t := by
  cases h : trim t with
  | nil => rfl
  | cons c rest =>
    have hc := isBlank_head_trim h
    rw [trimStart, List.dropWhile_cons_of_neg (by simp [hc])]

/-! ## The first word -/

theorem firstWord_eq_nil_of_blank {t : Text} (h : ∀ c ∈ t, isBlank c = true) :
    firstWord t = [] := by
  rw [firstWord, trimStart_eq_nil_iff.mpr h, List.takeWhile_nil]

theorem firstWord_blank_append {x : Text} (hx : ∀ c ∈ x, isBlank c = true) (y : Text) :
    firstWord (x ++ y) = firstWord y := by
  rw [firstWord, firstWord, trimStart_append_of_blank hx]

/-- The first word ends in front of a blank character, wherever it stands behind
it. -/
theorem firstWord_append_cons {x : Text} (hx : trimStart x ≠ []) {c : Char}
    (hc : isBlank c = true) (y : Text) : firstWord (x ++ c :: y) = firstWord x := by
  rw [firstWord, firstWord, trimStart_append_of_not_blank hx, List.takeWhile_append]
  split
  · -- the word reaches the end of `x`, and `c` stops it there
    rename_i hall
    have hself := (List.takeWhile_sublist (l := trimStart x) fun c => !isBlank c).eq_of_length hall
    rw [hself]
    simp [hc]
  · rfl

theorem firstWord_append_blank (x : Text) {y : Text} (hy : ∀ c ∈ y, isBlank c = true) :
    firstWord (x ++ y) = firstWord x := by
  by_cases hx : trimStart x = []
  · -- there is no word on either side
    have hblank := trimStart_eq_nil_iff.mp hx
    rw [firstWord_blank_append hblank, firstWord_eq_nil_of_blank hblank,
      firstWord_eq_nil_of_blank hy]
  · cases y with
    | nil => rw [List.append_nil]
    | cons c y => exact firstWord_append_cons hx (hy c List.mem_cons_self) y

/-- **Trimming keeps the first word.** -/
theorem firstWord_trim (t : Text) : firstWord (trim t) = firstWord t := by
  conv_rhs => rw [← leading_append_trim_append t]
  rw [firstWord_append_blank _ fun _ => isBlank_of_mem_trailing,
    firstWord_blank_append fun _ => isBlank_of_mem_leading]

/-- A trimmed text begins with its first word. -/
theorem firstWord_append_dropWhile_trim (t : Text) :
    firstWord t ++ (trim t).dropWhile (fun c => !isBlank c) = trim t := by
  rw [← firstWord_trim, firstWord, trimStart_trim, List.takeWhile_append_dropWhile]

end DiagramLint.Text
