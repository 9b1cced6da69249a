import DiagramLint.Proofs.BodyRows
import DiagramLint.Proofs.ScheduleReading

/-!
# Task lines

A line may have many colons: in its label, in a clock time, behind the duration.
`FirstColon` picks the first one that has a character in front of it and a given property
of the text behind it, by a statement on the line alone, and two such properties matter:
what stands behind a colon may begin with a schedule (`Scheduled`), and with one that is
usable (`Timed`).

The search for a label goes from colon to colon and ends at the first one with a usable
schedule behind it (`Task.splitFrom_eq_some`, `Task.splitFrom_eq_none`).  So a line is a task
exactly when it has such a colon (`Task.ofLine?_eq_some_iff`), and nothing else is ever said
about the search.

The difference between the two properties is a schedule of no minutes, or of too many.  The
search passes over it and goes on behind its tag; the colons in the tag do not help, as the
schedules behind them end in the same duration (`Schedule.Heads.of_colon`).
-/

namespace DiagramLint

/-- A schedule stands at the beginning of the text. -/
def Scheduled (t : Text) : Prop := ∃ s : Schedule, s.Heads t

/-- A usable schedule stands at the beginning of the text. -/
def Timed (t : Text) : Prop := ∃ s : Schedule, s.Heads t ∧ s.Usable

theorem Timed.scheduled {t : Text} (h : Timed t) : Scheduled t := by
  obtain ⟨s, hs, -⟩ := h
  exact ⟨s, hs⟩

/-- There is no other schedule in front of a text that a usable one stands in front of. -/
theorem Schedule.Heads.usable {s : Schedule} {t : Text} (h : s.Heads t) (ht : Timed t) :
    s.Usable := by
  obtain ⟨s', hs', husable⟩ := ht
  obtain rfl := h.unique hs'
  exact husable

instance : DecidablePred Scheduled := fun t =>
  decidable_of_iff ((Schedule.read? t).isSome = true) (by
    rw [Option.isSome_iff_exists]
    simp only [Schedule.read?_eq_some_iff, Scheduled])

/-- The first colon of a line with a character in front of it and `p` behind it: the line
splits there into `before` and `after`, and no colon of `before` will do. -/
structure FirstColon (p : Text → Prop) (line before after : Text) : Prop where
  split : line = before ++ ':' :: after
  before_ne_nil : before ≠ []
  holds : p after
  first : ∀ x y, before = x ++ ':' :: y → x ≠ [] → ¬ p (y ++ ':' :: after)

namespace FirstColon

variable {p : Text → Prop} {line before after : Text}

/-- If a colon will do, there is a first one that does. -/
theorem exists_of_colon {x y : Text} (hline : line = x ++ ':' :: y) (hx : x ≠ []) (hp : p y) :
    ∃ before after, FirstColon p line before after := by
  by_cases h : ∃ x' y', x = x' ++ ':' :: y' ∧ x' ≠ [] ∧ p (y' ++ ':' :: y)
  · -- an earlier colon does too
    obtain ⟨x', y', hsplit, hx', hp'⟩ := h
    have hlt : x'.length < x.length := by
      rw [hsplit, List.length_append, List.length_cons]
      omega
    have hline' : line = x' ++ ':' :: (y' ++ ':' :: y) := by
      rw [hline, hsplit, List.append_assoc, List.cons_append]
    exact exists_of_colon hline' hx' hp'
  · exact ⟨x, y, hline, hx, hp, fun x' y' hsplit hx' hp' => h ⟨x', y', hsplit, hx', hp'⟩⟩
termination_by x.length

/-- Any colon that does is the first one or stands behind it. -/
theorem eq_or_behind (h : FirstColon p line before after) {x y : Text}
    (hline : line = x ++ ':' :: y) (hx : x ≠ []) (hp : p y) :
    (x = before ∧ y = after) ∨ ∃ z, x = before ++ ':' :: z ∧ after = z ++ ':' :: y := by
  rcases Text.append_cons_cases (h.split.symm.trans hline) with
    ⟨hbefore, -, hafter⟩ | ⟨z, hx', hafter⟩ | ⟨z, hbefore, rfl⟩
  · exact Or.inl ⟨hbefore.symm, hafter.symm⟩
  · exact Or.inr ⟨z, hx', hafter⟩
  · exact absurd hp (h.first x z hbefore hx)

/-- The colons of `before` are found by their positions, so the first colon can be
computed. -/
theorem iff_forall_lt : FirstColon p line before after ↔
    line = before ++ ':' :: after ∧ before ≠ [] ∧ p after ∧
      ∀ k < before.length, k ≠ 0 → before[k]? = some ':' →
        ¬ p (before.drop (k + 1) ++ ':' :: after) := by
  constructor
  · rintro ⟨hsplit, hne, hp, hfirst⟩
    refine ⟨hsplit, hne, hp, fun k hk hpos hcolon => ?_⟩
    obtain ⟨hlt, hget⟩ := List.getElem?_eq_some_iff.mp hcolon
    have hbefore : before = before.take k ++ ':' :: before.drop (k + 1) := by
      rw [← hget, ← List.drop_eq_getElem_cons hlt, List.take_append_drop]
    refine hfirst (before.take k) (before.drop (k + 1)) hbefore fun hnil => ?_
    rcases List.take_eq_nil_iff.mp hnil with hzero | hempty
    · exact hpos hzero
    · exact hne hempty
  · rintro ⟨hsplit, hne, hp, hfirst⟩
    refine ⟨hsplit, hne, hp, ?_⟩
    rintro x y rfl hx
    have hk := hfirst x.length (by simp) (fun hzero => hx (List.eq_nil_of_length_eq_zero hzero))
      (by simp)
    have hdrop : (x ++ ':' :: y).drop (x.length + 1) = y := by simp [List.drop_append]
    rwa [hdrop] at hk

instance [DecidablePred p] : Decidable (FirstColon p line before after) :=
  decidable_of_iff _ iff_forall_lt.symm

end FirstColon

/-! ## The search for a colon -/

namespace Task

theorem minutesAfterColon?_eq_some_iff {rest : Text} {n : Nat} :
    minutesAfterColon? rest = some n ↔
      ∃ s : Schedule, s.Heads rest ∧ s.Usable ∧ n = s.duration := by
  simp only [minutesAfterColon?, Option.bind_eq_some_iff, Schedule.read?_eq_some_iff,
    Schedule.minutes?_eq_some_iff]

theorem minutesAfterColon?_eq_none_iff {rest : Text} :
    minutesAfterColon? rest = none ↔ ¬ Timed rest := by
  rw [Option.eq_none_iff_forall_ne_some]
  simp only [ne_eq, minutesAfterColon?_eq_some_iff, Timed]
  constructor
  · rintro h ⟨s, hs, husable⟩
    exact h s.duration ⟨s, hs, husable, rfl⟩
  · rintro h n ⟨s, hs, husable, -⟩
    exact h ⟨s, hs, husable⟩

/-- The search passes over a character unless it is a colon with a usable schedule. -/
theorem splitFrom_cons_of_not {passed rest : Text} {c : Char}
    (h : c = ':' → passed ≠ [] → ¬ Timed rest) :
    splitFrom passed (c :: rest) = splitFrom (c :: passed) rest := by
  have hnone : (if c = ':' ∧ passed ≠ [] then minutesAfterColon? rest else none) = none := by
    split
    · rename_i hc
      exact minutesAfterColon?_eq_none_iff.mpr (h hc.1 hc.2)
    · rfl
  rw [splitFrom, hnone]

theorem splitFrom_colon {passed rest : Text} {n : Nat} (hne : passed ≠ [])
    (h : minutesAfterColon? rest = some n) :
    splitFrom passed (':' :: rest) = some (Text.trim passed.reverse, n) := by
  rw [splitFrom, if_pos ⟨rfl, hne⟩, h]

/-- **The search ends at the first colon with a usable schedule behind it.** -/
theorem splitFrom_eq_some {passed before after : Text} {n : Nat}
    (hne : passed.reverse ++ before ≠ []) (h : minutesAfterColon? after = some n)
    (hfirst : ∀ x y, before = x ++ ':' :: y → passed.reverse ++ x ≠ [] →
      ¬ Timed (y ++ ':' :: after)) :
    splitFrom passed (before ++ ':' :: after) =
      some (Text.trim (passed.reverse ++ before), n) := by
  induction before generalizing passed with
  | nil =>
    rw [List.append_nil] at hne ⊢
    exact splitFrom_colon (fun hnil => hne (by rw [hnil]; rfl)) h
  | cons c before ih =>
    have hpass : c = ':' → passed ≠ [] → ¬ Timed (before ++ ':' :: after) := by
      rintro rfl hpassed
      exact hfirst [] before rfl (by simpa using hpassed)
    have hmove : passed.reverse ++ c :: before = (c :: passed).reverse ++ before := by simp
    rw [List.cons_append, splitFrom_cons_of_not hpass, hmove]
    refine ih (by simp) fun x y hsplit _ => ?_
    exact hfirst (c :: x) y (by rw [hsplit]; rfl) (by simp)

/-- The search fails when no colon has a usable schedule behind it. -/
theorem splitFrom_eq_none {passed t : Text}
    (h : ∀ x y, t = x ++ ':' :: y → passed.reverse ++ x ≠ [] → ¬ Timed y) :
    splitFrom passed t = none := by
  induction t generalizing passed with
  | nil => rfl
  | cons c rest ih =>
    have hpass : c = ':' → passed ≠ [] → ¬ Timed rest := by
      rintro rfl hpassed
      exact h [] rest rfl (by simpa using hpassed)
    rw [splitFrom_cons_of_not hpass]
    refine ih fun x y hsplit _ => ?_
    exact h (c :: x) y (by rw [hsplit]; rfl) (by simp)

variable {l : Line}

theorem ofLine?_of_firstColon {before after : Text} {s : Schedule}
    (h : FirstColon Timed l.text before after) (hs : s.Heads after) :
    ofLine? l = some ⟨Text.trim before, s.duration, l.span⟩ := by
  have hminutes := minutesAfterColon?_eq_some_iff.mpr ⟨s, hs, hs.usable h.holds, rfl⟩
  have hsplit : splitFrom [] (before ++ ':' :: after) = some (Text.trim before, s.duration) :=
    splitFrom_eq_some h.before_ne_nil hminutes h.first
  rw [ofLine?, h.split, hsplit]
  rfl

/-- A line with a usable schedule behind one of its colons is a task. -/
theorem exists_ofLine?_of_timed {x y : Text} (hsplit : l.text = x ++ ':' :: y) (hx : x ≠ [])
    (hy : Timed y) : ∃ (before after : Text) (s : Schedule),
      FirstColon Timed l.text before after ∧ s.Heads after ∧
        ofLine? l = some ⟨Text.trim before, s.duration, l.span⟩ := by
  obtain ⟨before, after, hfirst⟩ := FirstColon.exists_of_colon hsplit hx hy
  obtain ⟨s, hs, -⟩ := hfirst.holds
  exact ⟨before, after, s, hfirst, hs, ofLine?_of_firstColon hfirst hs⟩

/-- **A line is no task exactly when none of its colons has a usable schedule behind it.** -/
theorem ofLine?_eq_none_iff :
    ofLine? l = none ↔ ∀ x y, l.text = x ++ ':' :: y → x ≠ [] → ¬ Timed y := by
  constructor
  · intro hnone x y hsplit hx hy
    obtain ⟨before, after, s, -, -, hsome⟩ := exists_ofLine?_of_timed hsplit hx hy
    rw [hnone] at hsome
    cases hsome
  · intro h
    have hnone : splitFrom [] l.text = none := splitFrom_eq_none h
    rw [ofLine?, hnone]
    rfl

/-- **A task is read at the first colon with a usable schedule behind it.** -/
theorem ofLine?_eq_some_iff {t : Task} :
    ofLine? l = some t ↔ ∃ (before after : Text) (s : Schedule),
      FirstColon Timed l.text before after ∧ s.Heads after ∧
        t = ⟨Text.trim before, s.duration, l.span⟩ := by
  constructor
  · intro h
    -- the line is a task, so one of its colons will do
    have hsome : ¬ ∀ x y, l.text = x ++ ':' :: y → x ≠ [] → ¬ Timed y := by
      rw [← ofLine?_eq_none_iff, h]
      exact Option.some_ne_none t
    push Not at hsome
    obtain ⟨x, y, hsplit, hx, hy⟩ := hsome
    obtain ⟨before, after, s, hfirst, hs, htask⟩ := exists_ofLine?_of_timed hsplit hx hy
    exact ⟨before, after, s, hfirst, hs, Option.some.inj (h.symm.trans htask)⟩
  · rintro ⟨before, after, s, hfirst, hs, rfl⟩
    exact ofLine?_of_firstColon hfirst hs

/-- The label of a task has only characters of its line. -/
theorem newline_not_mem_label {t : Task} (h : ofLine? l = some t) (hline : '\n' ∉ l.text) :
    '\n' ∉ t.label := by
  obtain ⟨before, after, s, hfirst, -, rfl⟩ := ofLine?_eq_some_iff.mp h
  intro hmem
  apply hline
  rw [hfirst.split]
  exact List.mem_append_left _ (Text.mem_of_mem_trim hmem)

/-- A line of a body is trimmed, so it begins with a character that is not blank, and the
label of a task does too. -/
theorem label_ne_nil {base : Nat} {body : Text} {t : Task} (hl : l ∈ lines base body)
    (h : ofLine? l = some t) : t.label ≠ [] := by
  obtain ⟨before, after, s, hfirst, -, rfl⟩ := ofLine?_eq_some_iff.mp h
  obtain ⟨-, row, -, -, -, -, -, htext, -⟩ := (within_of_mem_lines hl).row
  obtain ⟨c, rest, rfl⟩ := List.exists_cons_of_ne_nil hfirst.before_ne_nil
  have hc := Text.isBlank_head_trim (htext.symm.trans hfirst.split)
  intro hnil
  rw [Text.trim_eq_nil_iff.mp hnil c List.mem_cons_self] at hc
  cases hc

end Task

/-- **Which lines are tasks, and what they say.**  A task of a line of a body comes from one
of its colons, with a character in front and a schedule behind it: the label is what stands
in front, trimmed, and the minutes are those of the schedule, computed without a bound and
found to be in range.  If the first colon with a schedule behind it has a usable one, the
line is the task of that colon, whatever follows the unit; if there is no such colon, the
line is no task. -/
theorem task_line_sound_complete {base : Nat} {body : Text} {l : Line}
    (hl : l ∈ lines base body) :
    (∀ t, Task.ofLine? l = some t → ∃ (before after : Text) (s : Schedule),
      l.text = before ++ ':' :: after ∧ before ≠ [] ∧ s.Heads after ∧
        t.label = Text.trim before ∧ t.label ≠ [] ∧ '\n' ∉ t.label ∧
        t.minutes = Text.digitsValue 10 s.digits * s.unit.factor ∧
        1 ≤ t.minutes ∧ t.minutes < durationBound ∧ t.span = l.span) ∧
    (∀ (before after : Text) (s : Schedule), FirstColon Scheduled l.text before after →
      s.Heads after → 1 ≤ s.duration → s.duration < durationBound →
      Task.ofLine? l = some ⟨Text.trim before, s.duration, l.span⟩) ∧
    ((∀ before after, l.text = before ++ ':' :: after → before ≠ [] → ¬ Scheduled after) →
      Task.ofLine? l = none) := by
  refine ⟨?_, ?_, ?_⟩
  · intro t ht
    obtain ⟨before, after, s, hfirst, hs, rfl⟩ := Task.ofLine?_eq_some_iff.mp ht
    obtain ⟨hpos, hlt⟩ := hs.usable hfirst.holds
    have hnewline := Task.newline_not_mem_label ht (within_of_mem_lines hl).newline_not_mem
    exact ⟨before, after, s, hfirst.split, hfirst.before_ne_nil, hs, rfl,
      Task.label_ne_nil hl ht, hnewline, rfl, hpos, hlt, rfl⟩
  · intro before after s hfirst hs hpos hlt
    -- no earlier colon has a schedule, let alone a usable one
    have htimed : FirstColon Timed l.text before after :=
      ⟨hfirst.split, hfirst.before_ne_nil, ⟨s, hs, hpos, hlt⟩,
        fun x y hsplit hx hy => hfirst.first x y hsplit hx hy.scheduled⟩
    exact Task.ofLine?_of_firstColon htimed hs
  · intro h
    apply Task.ofLine?_eq_none_iff.mpr
    intro x y hsplit hx hy
    exact h x y hsplit hx hy.scheduled

/-- The first colon has no schedule behind it, since its third field does not begin with
digits; the clock time has a colon too. -/
theorem task_line_sound_complete_of_colonsInLabel :
    (⟨"a:b, c, d : t1, 09:30, 2h later".toList, ⟨2, 33⟩⟩ : Line) ∈
        lines 0 "\n a:b, c, d : t1, 09:30, 2h later \r\n".toList ∧
      Task.ofLine? ⟨"a:b, c, d : t1, 09:30, 2h later".toList, ⟨2, 33⟩⟩ =
        some ⟨"a:b, c, d".toList, 120, ⟨2, 33⟩⟩ := by
  have hl : (⟨"a:b, c, d : t1, 09:30, 2h later".toList, ⟨2, 33⟩⟩ : Line) ∈
      lines 0 "\n a:b, c, d : t1, 09:30, 2h later \r\n".toList := by decide +kernel
  have hfirst : FirstColon Scheduled "a:b, c, d : t1, 09:30, 2h later".toList
      "a:b, c, d ".toList " t1, 09:30, 2h later".toList := by decide +kernel
  have hs : Schedule.Heads ⟨" t1".toList, " 09:30".toList, ['2'], .hours⟩
      " t1, 09:30, 2h later".toList := Schedule.read?_eq_some_iff.mp (by decide +kernel)
  exact ⟨hl, (task_line_sound_complete hl).2.1 _ _ _ hfirst hs (by decide) (by decide)⟩

/-! ## Lines with a schedule that is not usable -/

/-- A colon in the tag of a schedule has a schedule with the same duration behind it. -/
theorem Schedule.Heads.of_colon {s : Schedule} {x y : Text} (h : s.Heads (x ++ ':' :: y)) :
    (∃ z, x = s.tag ++ ',' :: z) ∨ ∃ tag, Schedule.Heads { s with tag } y := by
  obtain ⟨gap, rest, hgap, hsplit⟩ := h.split
  rcases Text.append_cons_cases hsplit with ⟨-, hne, -⟩ | ⟨z, htag, hrest⟩ | ⟨z, hx, -⟩
  · exact absurd hne (by decide)
  · refine Or.inr ⟨z, ⟨gap, rest, hgap, hrest⟩, fun hmem => h.comma_not_mem_tag ?_,
      h.comma_not_mem_time, h.digits_ne_nil, h.isDigit_digits⟩
    rw [htag]
    exact List.mem_append_right _ (List.mem_cons_of_mem _ hmem)
  · exact Or.inl ⟨z, hx⟩

/-- When the first schedule of a line is not usable, a usable one can only stand behind the
tag of that one. -/
theorem FirstColon.exists_behind_tag {line before after x y : Text} {s : Schedule}
    (hfirst : FirstColon Scheduled line before after) (hs : s.Heads after) (hout : ¬ s.Usable)
    (hsplit : line = x ++ ':' :: y) (hx : x ≠ []) (hy : Timed y) :
    ∃ z, x = before ++ ':' :: (s.tag ++ ',' :: z) ∧ after = s.tag ++ ',' :: (z ++ ':' :: y) := by
  rcases hfirst.eq_or_behind hsplit hx hy.scheduled with ⟨-, rfl⟩ | ⟨z, rfl, rfl⟩
  · exact absurd (hs.usable hy) hout
  · rcases hs.of_colon with ⟨w, rfl⟩ | ⟨tag, htag⟩
    · exact ⟨w, rfl, by simp⟩
    · -- the colon stands in the tag, and the schedule behind it has the same duration
      exact absurd (htag.usable hy) hout

/-- **A schedule that is not usable is passed over.**  When the first colon with a schedule
behind it has one of no minutes, or of too many, the line is no task exactly if none of the
colons behind the tag of that schedule has a usable schedule behind it; otherwise it is the
task of the first of those colons, with all that stands in front of it as its label. -/
theorem unusable_schedule_passed_over {l : Line} {before after : Text} {s : Schedule}
    (hfirst : FirstColon Scheduled l.text before after) (hs : s.Heads after)
    (hout : s.duration = 0 ∨ durationBound ≤ s.duration) :
    (Task.ofLine? l = none ↔ ∀ x y, after = s.tag ++ ',' :: (x ++ ':' :: y) → ¬ Timed y) ∧
    ∀ t, Task.ofLine? l = some t → ∃ (x y : Text) (s' : Schedule),
      after = s.tag ++ ',' :: (x ++ ':' :: y) ∧ s'.Heads y ∧ s'.Usable ∧
        (∀ x' y', x = x' ++ ':' :: y' → ¬ Timed (y' ++ ':' :: y)) ∧
        t = ⟨Text.trim (before ++ ':' :: (s.tag ++ ',' :: x)), s'.duration, l.span⟩ := by
  have hunusable := Schedule.not_usable_iff.mpr hout
  have hcolon : ∀ x y, after = s.tag ++ ',' :: (x ++ ':' :: y) →
      l.text = before ++ ':' :: (s.tag ++ ',' :: x) ++ ':' :: y := by
    intro x y hafter
    rw [hfirst.split, hafter]
    simp
  constructor
  · rw [Task.ofLine?_eq_none_iff]
    constructor
    · intro h x y hafter
      exact h _ y (hcolon x y hafter) (by simp)
    · intro h x y hsplit hx hy
      obtain ⟨z, -, hafter⟩ := hfirst.exists_behind_tag hs hunusable hsplit hx hy
      exact h z y hafter hy
  · intro t ht
    obtain ⟨front, y, s', hfront, hs', rfl⟩ := Task.ofLine?_eq_some_iff.mp ht
    obtain ⟨x, rfl, hafter⟩ := hfirst.exists_behind_tag hs hunusable hfront.split
      hfront.before_ne_nil hfront.holds
    refine ⟨x, y, s', hafter, hs', hs'.usable hfront.holds, ?_, rfl⟩
    rintro x' y' rfl
    exact hfront.first (before ++ ':' :: (s.tag ++ ',' :: x')) y' (by simp) (by simp)

/-- The minutes are out of range, and the colon of the clock time does not help. -/
theorem unusable_schedule_passed_over_of_longTask :
    Task.ofLine? ⟨"Age : a1, 00:00, 18446744073709551615h".toList, ⟨0, 38⟩⟩ = none ∧
      ∀ x y, " 00:00, 18446744073709551615h".toList = x ++ ':' :: y → ¬ Timed y := by
  have hfirst : FirstColon Scheduled "Age : a1, 00:00, 18446744073709551615h".toList
      "Age ".toList " a1, 00:00, 18446744073709551615h".toList := by decide +kernel
  have hs : Schedule.Heads
      ⟨" a1".toList, " 00:00".toList, "18446744073709551615".toList, .hours⟩
      " a1, 00:00, 18446744073709551615h".toList :=
    Schedule.read?_eq_some_iff.mp (by decide +kernel)
  have hnone : Task.ofLine? ⟨"Age : a1, 00:00, 18446744073709551615h".toList, ⟨0, 38⟩⟩ = none := by
    decide +kernel
  refine ⟨hnone, fun x y hsplit => ?_⟩
  exact (unusable_schedule_passed_over hfirst hs (Or.inr (by decide +kernel))).1.mp hnone x y
    (congrArg (" a1".toList ++ ',' :: ·) hsplit)

/-- A schedule of no minutes does not keep a line from being a task: here the colon of the
clock time has a usable schedule behind it. -/
theorem task_of_zero_duration :
    (⟨"Ship : s1, 00:00, 0m, 5m".toList, ⟨0, 24⟩⟩ : Line) ∈
        lines 0 "Ship : s1, 00:00, 0m, 5m".toList ∧
      FirstColon Scheduled "Ship : s1, 00:00, 0m, 5m".toList "Ship ".toList
        " s1, 00:00, 0m, 5m".toList ∧
      Schedule.Heads ⟨" s1".toList, " 00:00".toList, ['0'], .minutes⟩
        " s1, 00:00, 0m, 5m".toList ∧
      Schedule.duration ⟨" s1".toList, " 00:00".toList, ['0'], .minutes⟩ = 0 ∧
      Task.ofLine? ⟨"Ship : s1, 00:00, 0m, 5m".toList, ⟨0, 24⟩⟩ =
        some ⟨"Ship : s1, 00".toList, 5, ⟨0, 24⟩⟩ :=
  ⟨by decide +kernel, by decide +kernel, Schedule.read?_eq_some_iff.mp (by decide +kernel),
    by decide +kernel, by decide +kernel⟩

end DiagramLint
