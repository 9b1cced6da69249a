import DiagramLint.Settings.Discovery

/-!
# Valid settings

Settings are valid when none of the demands on them is violated; the order in which the
demands are made matters for the message alone (`Settings.valid_iff`).  A run never sees
other settings: the defaults are valid, and so is whatever is loaded
(`Settings.valid_of_load`).
-/

namespace DiagramLint.Settings

theorem demand_eq_none_iff {condition : Bool} {v : Violation} :
    demand condition v = none ↔ condition = true := by
  unfold demand
  split <;> simp_all

/-- **What makes settings valid.** -/
theorem valid_iff {s : Settings} :
    s.Valid ↔ Text.trim s.marker.field ≠ [] ∧ Text.isBlank s.marker.delimiter = false ∧
      usableWidth s.metrics.gridWidth = true ∧ usableWidth s.metrics.asciiWidth = true ∧
      usableWidth s.metrics.wideWidth = true ∧ 1 ≤ s.previewLength := by
  unfold Valid violation?
  simp only [List.findSome?_eq_none_iff, List.forall_mem_cons, id_eq, demand_eq_none_iff,
    decide_eq_true_eq, Bool.not_eq_true', List.not_mem_nil, false_implies, implies_true,
    and_true]

theorem Valid.field_ne_nil {s : Settings} (h : s.Valid) : s.marker.field ≠ [] := by
  intro hnil
  exact (valid_iff.mp h).1 (by rw [hnil, Text.trim_nil])

theorem Valid.delimiter_not_blank {s : Settings} (h : s.Valid) :
    Text.isBlank s.marker.delimiter = false :=
  (valid_iff.mp h).2.1

theorem valid_default : default.Valid := valid_iff.mpr (by decide)

/-- **Settings that were loaded are valid**, from wherever they came. -/
theorem valid_of_load {reader : DocumentReader} {fs : FileSystem}
    {userDirectory asked : Option String} {s : Settings}
    (h : load reader fs userDirectory asked = .ok s) : s.Valid := by
  unfold load at h
  split at h
  · exact valid_of_loadFile h
  · cases h
    exact valid_default

end DiagramLint.Settings
