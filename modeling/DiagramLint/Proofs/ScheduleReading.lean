import DiagramLint.Timeline.Task
import DiagramLint.Proofs.TextRuns

/-!
# Reading schedules

`Schedule.Heads` says what it means for a text to begin with a schedule, without a word
about how it is read: two fields without commas, each with a comma behind it, blanks, a
run of digits, the letter of a unit, and anything after that.

A text begins with at most one schedule (`Schedule.Heads.unique`), since every part of it
ends where it must: a field at the first comma, the blanks at the first digit, the digits
at the letter, which is none.  So reading part by part finds the schedule whenever there
is one (`Schedule.read?_eq_some_iff`), and there is nothing to try again.

The duration of a schedule is a product of natural numbers that has no bound.  A schedule
is usable when that product is positive and in the range of durations
(`Schedule.minutes?_eq_some_iff`).
-/

namespace DiagramLint

namespace TimeUnit

/-- The letter that stands for a unit. -/
def letter : TimeUnit → Char
  | minutes => 'm'
  | hours => 'h'
  | days => 'd'
  | weeks => 'w'

theorem ofChar?_eq_some_iff {c : Char} {u : TimeUnit} : ofChar? c = some u ↔ c = u.letter := by
  constructor
  · intro h
    unfold ofChar? at h
    split at h
    all_goals cases h
    all_goals rfl
  · rintro rfl
    cases u <;> rfl

/-- A unit ends the digits in front of it. -/
theorem isDigit_letter (u : TimeUnit) : u.letter.isDigit = false := by
  cases u <;> decide

end TimeUnit

/-- No range of blank characters meets the digits. -/
theorem Text.isBlank_of_isDigit {c : Char} (h : c.isDigit = true) : isBlank c = false := by
  have hrange := Char.isDigit_iff_toNat.mp h
  have hapart : ∀ r ∈ blankRanges, r.2 < '0'.toNat ∨ '9'.toNat < r.1 := by decide
  rw [isBlank, List.any_eq_false]
  intro r hr
  have hr := hapart r hr
  simp only [Bool.and_eq_true, decide_eq_true_eq]
  omega

namespace Schedule

/-- The text begins with the schedule. -/
structure Heads (s : Schedule) (t : Text) : Prop where
  split : ∃ gap rest, (∀ c ∈ gap, Text.isBlank c = true) ∧
    t = s.tag ++ ',' :: (s.time ++ ',' :: (gap ++ (s.digits ++ s.unit.letter :: rest)))
  comma_not_mem_tag : ',' ∉ s.tag
  comma_not_mem_time : ',' ∉ s.time
  digits_ne_nil : s.digits ≠ []
  isDigit_digits : ∀ d ∈ s.digits, d.isDigit = true

/-- A field is read up to the first comma. -/
theorem readField?_eq_some_iff {t field rest : Text} :
    readField? t = some (field, rest) ↔ t = field ++ ',' :: rest ∧ ',' ∉ field := by
  unfold readField?
  constructor
  · intro h
    split at h
    · cases h
    · rename_i hdrop
      obtain ⟨hpre, rfl⟩ := Prod.mk.inj (Option.some.inj h)
      obtain ⟨ht, hmem, -⟩ := Text.scan_ne_eq_iff.mp ⟨hpre, hdrop⟩
      exact ⟨ht, hmem⟩
  · rintro ⟨ht, hmem⟩
    obtain ⟨hpre, hdrop⟩ := Text.scan_ne_eq_iff.mpr ⟨ht, hmem, rfl⟩
    rw [hpre, hdrop]

/-- The digits are read up to the first other character, which has to be a letter of a
unit. -/
theorem readDuration?_eq_some_iff {t digits : Text} {u : TimeUnit} :
    readDuration? t = some (digits, u) ↔
      (∃ rest, t = digits ++ u.letter :: rest) ∧ digits ≠ [] ∧
        ∀ d ∈ digits, d.isDigit = true := by
  unfold readDuration?
  constructor
  · intro h
    split at h
    · rename_i d ds c rest hpre hdrop
      obtain ⟨u', hu, hpair⟩ := Option.map_eq_some_iff.mp h
      obtain ⟨rfl, rfl⟩ := Prod.mk.inj hpair
      obtain ⟨ht, hdigits, -⟩ := Text.scan_eq_iff.mp ⟨hpre, hdrop⟩
      rw [TimeUnit.ofChar?_eq_some_iff.mp hu] at ht
      exact ⟨⟨rest, ht⟩, List.cons_ne_nil d ds, hdigits⟩
    · cases h
  · rintro ⟨⟨rest, ht⟩, hne, hdigits⟩
    obtain ⟨d, ds, rfl⟩ := List.exists_cons_of_ne_nil hne
    obtain ⟨hpre, hdrop⟩ := Text.scan_eq_iff.mpr ⟨ht, hdigits, u.isDigit_letter⟩
    rw [hpre, hdrop]
    simp only [TimeUnit.ofChar?_eq_some_iff.mpr rfl, Option.map_some]

/-- **A schedule is read exactly when the text begins with it.** -/
theorem read?_eq_some_iff {t : Text} {s : Schedule} : read? t = some s ↔ s.Heads t := by
  obtain ⟨tag, time, digits, unit⟩ := s
  unfold read?
  simp only [Option.bind_eq_bind, Option.bind_eq_some_iff, Prod.exists, readField?_eq_some_iff,
    readDuration?_eq_some_iff, Option.pure_def, Option.some.injEq, Schedule.mk.injEq]
  constructor
  · rintro ⟨_, rest, ⟨rfl, htag⟩, _, rest', ⟨rfl, htime⟩, _, _, ⟨⟨after, hrest⟩, hne, hdigits⟩,
      rfl, rfl, rfl, rfl⟩
    refine ⟨⟨Text.leading rest', after, fun c hc => Text.isBlank_of_mem_leading hc, ?_⟩, htag,
      htime, hne, hdigits⟩
    rw [← hrest, Text.leading_append_trimStart]
  · rintro ⟨⟨gap, after, hgap, rfl⟩, htag, htime, hne, hdigits⟩
    refine ⟨tag, _, ⟨rfl, htag⟩, time, _, ⟨rfl, htime⟩, digits, unit, ⟨⟨after, ?_⟩, hne, hdigits⟩,
      rfl, rfl, rfl, rfl⟩
    -- the blanks end at the first digit
    obtain ⟨d, ds, rfl⟩ := List.exists_cons_of_ne_nil hne
    have hd : Text.isBlank d = false := Text.isBlank_of_isDigit (hdigits d List.mem_cons_self)
    rw [Text.trimStart_append_of_blank hgap, List.cons_append, Text.trimStart,
      List.dropWhile_cons_of_neg (by simp [hd])]

/-- **A text begins with at most one schedule.** -/
theorem Heads.unique {t : Text} {s s' : Schedule} (h : s.Heads t) (h' : s'.Heads t) : s = s' :=
  Option.some.inj ((read?_eq_some_iff.mpr h).symm.trans (read?_eq_some_iff.mpr h'))

/-! ## Durations -/

/-- The minutes that a schedule stands for, however many they are. -/
def duration (s : Schedule) : Nat := Text.digitsValue 10 s.digits * s.unit.factor

/-- The schedule stands for a positive number of minutes within the range of durations. -/
def Usable (s : Schedule) : Prop := 0 < s.duration ∧ s.duration < durationBound

instance (s : Schedule) : Decidable s.Usable := inferInstanceAs (Decidable (_ ∧ _))

theorem not_usable_iff {s : Schedule} :
    ¬ s.Usable ↔ s.duration = 0 ∨ durationBound ≤ s.duration := by
  unfold Usable
  omega

/-- The count alone is in range when the minutes are, so one test decides. -/
theorem minutes?_eq_some_iff {s : Schedule} {n : Nat} :
    s.minutes? = some n ↔ s.Usable ∧ n = s.duration := by
  have hfactor := s.unit.factor_pos
  have hcount : Text.digitsValue 10 s.digits ≤ s.duration := Nat.le_mul_of_pos_right _ hfactor
  unfold minutes?
  simp only
  split
  · rw [Option.filter_eq_some_iff, TimeUnit.toMinutes?_eq_some_iff, decide_eq_true_eq]
    constructor
    · rintro ⟨⟨rfl, hlt⟩, hpos⟩
      exact ⟨⟨hpos, hlt⟩, rfl⟩
    · rintro ⟨⟨hpos, hlt⟩, rfl⟩
      exact ⟨⟨rfl, hlt⟩, hpos⟩
  · rename_i hge
    constructor
    · intro h
      cases h
    · rintro ⟨⟨-, hlt⟩, -⟩
      omega

end Schedule

end DiagramLint
