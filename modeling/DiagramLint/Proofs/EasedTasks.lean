import DiagramLint.Proofs.DoubleArithmetic
import DiagramLint.Proofs.SettingsValidity
import DiagramLint.Proofs.TimelineOutcome
import DiagramLint.Proofs.WidthLaws

/-!
# Eased tasks

Widths are computed in doubles.  The doubles that have a value, from zero on and with infinity,
keep the order of their operands in sums and in products and quotients with a positive number
(`monotone_float`): what an operation gives is the exact result, rounded to the nearest double,
and rounding keeps the order.  No operation on widths gives something that is not a number, as
`∞ / ∞` and `0 * ∞` would; for the minutes of a chart and the constants of the estimate are
positive and finite.

So a task whose label fits goes on to fit, in a chart of as many minutes, when it is made longer
and its label is eased (`Timeline.findingUnder?_of_eased`).
-/

namespace DiagramLint

namespace Double

open Float.Model Float.Model.UnpackedFloat

/-! ## Doubles as widths -/

/-- The value of a double, in units. -/
def Holds (x : Float) (v : ℕ) : Prop := HasValue x.toModel.unpack v

/-- The double is a number from zero on, or infinity. -/
def IsWidth (x : Float) : Prop := ∃ v, Holds x v

/-- The double is a positive number. -/
def IsScale (x : Float) : Prop := ∃ v, Holds x v ∧ 0 < v ∧ v < infinity

variable {x x' y y' c : Float} {v w : ℕ}

theorem Holds.le_iff (hx : Holds x v) (hy : Holds y w) : x ≤ y ↔ v ≤ w :=
  decide_eq_true_iff.trans (HasValue.le_iff hx hy)

theorem Holds.add (hx : Holds x v) (hy : Holds y w) : Holds (x + y) (nearestDouble (v + w) 1) :=
  HasValue.add hx hy

theorem Holds.div (hx : Holds x v) (hc : Holds c w) (hpos : 0 < w) (hfinite : w < infinity) :
    Holds (x / c) (unlessInfinite v (nearestDouble (v * one) w)) :=
  HasValue.div hx hc hpos hfinite

theorem Holds.mul (hx : Holds x v) (hc : Holds c w) (hpos : 0 < w) (hfinite : w < infinity) :
    Holds (x * c) (unlessInfinite v (nearestDouble (v * w) one)) :=
  HasValue.mul hx hc hpos hfinite

theorem holds_toFloat (n : ℕ) : Holds n.toFloat (nearestDouble (n * one) 1) :=
  hasValue_toFloat n

/-- **A usable width is a positive number.** -/
theorem isScale_of_usableWidth (h : Settings.usableWidth x = true) : IsScale x := by
  obtain ⟨hfinite, hpos⟩ := Bool.and_eq_true_iff.mp h
  -- doubles are compared as they are unpacked, and the zero of the test is the positive one
  have hfinite : x.toModel.unpack.isFinite = true := hfinite
  have hpos : UnpackedFloat.lt (.zero .positive) x.toModel.unpack = true :=
    decide_eq_true_iff.mp (of_decide_eq_true hpos)
  unfold IsScale Holds
  cases hx : x.toModel.unpack with
  | notANumber =>
      rw [hx] at hfinite
      cases hfinite
  | infinity s =>
      rw [hx] at hfinite
      cases hfinite
  | zero s =>
      rw [hx] at hpos
      cases hpos
  | finite s m e pos =>
      cases s with
      | negative =>
          rw [hx] at hpos
          cases hpos
      | positive =>
          obtain ⟨v, hv⟩ := hasValue_of_positive hx
          refine ⟨v, hv, ?_⟩
          cases hv with
          | finite pos canonical small exponent value =>
              rw [value]
              exact ⟨Nat.mul_pos pos (Nat.two_pow_pos _), canonical.lt_infinity small⟩

/-! ## Operations keep the order -/

theorem ofMinutes_le {n n' : ℕ} (h : n ≤ n') : n.toFloat ≤ n'.toFloat := by
  rw [(holds_toFloat n).le_iff (holds_toFloat n')]
  exact nearestDouble_le Nat.one_pos (Nat.mul_le_mul_right one h)

theorem isScale_ofMinutes {n : ℕ} (hpos : 0 < n) (hrange : n < durationBound) :
    IsScale n.toFloat :=
  ⟨_, holds_toFloat n, nearestDouble_mul_one_pos hpos, nearestDouble_mul_one_lt hrange⟩

theorem add_le_add (hx : IsWidth x) (hx' : IsWidth x') (hy : IsWidth y) (hy' : IsWidth y')
    (hle : x ≤ x') (hle' : y ≤ y') : x + y ≤ x' + y' := by
  obtain ⟨v, hx⟩ := hx
  obtain ⟨v', hx'⟩ := hx'
  obtain ⟨w, hy⟩ := hy
  obtain ⟨w', hy'⟩ := hy'
  rw [hx.le_iff hx'] at hle
  rw [hy.le_iff hy'] at hle'
  rw [(hx.add hy).le_iff (hx'.add hy')]
  exact nearestDouble_le Nat.one_pos (Nat.add_le_add hle hle')

/-- Adding a width takes nothing away: the value before is a double, and rounds to itself. -/
theorem le_add (hx : IsWidth x) (hy : IsWidth y) : x ≤ x + y := by
  obtain ⟨v, hx⟩ := hx
  obtain ⟨w, hy⟩ := hy
  rw [hx.le_iff (hx.add hy)]
  calc v = nearestDouble v 1 := (HasValue.nearestDouble_eq hx).symm
    _ ≤ nearestDouble (v + w) 1 := nearestDouble_le Nat.one_pos (Nat.le_add_right v w)

theorem div_le_div (hx : IsWidth x) (hx' : IsWidth x') (hc : IsScale c) (hle : x ≤ x') :
    x / c ≤ x' / c := by
  obtain ⟨v, hx⟩ := hx
  obtain ⟨v', hx'⟩ := hx'
  obtain ⟨w, hc, hpos, hfinite⟩ := hc
  rw [hx.le_iff hx'] at hle
  rw [(hx.div hc hpos hfinite).le_iff (hx'.div hc hpos hfinite)]
  apply unlessInfinite_le (HasValue.le_infinity hx') (nearestDouble_le_infinity ..) hle
  exact nearestDouble_le hpos (Nat.mul_le_mul_right one hle)

theorem mul_le_mul (hx : IsWidth x) (hx' : IsWidth x') (hc : IsScale c) (hle : x ≤ x') :
    x * c ≤ x' * c := by
  obtain ⟨v, hx⟩ := hx
  obtain ⟨v', hx'⟩ := hx'
  obtain ⟨w, hc, hpos, hfinite⟩ := hc
  rw [hx.le_iff hx'] at hle
  rw [(hx.mul hc hpos hfinite).le_iff (hx'.mul hc hpos hfinite)]
  apply unlessInfinite_le (HasValue.le_infinity hx') (nearestDouble_le_infinity ..) hle
  exact nearestDouble_le one_pos (Nat.mul_le_mul_right w hle)

/-- **Doubles keep the order of their operands.** -/
theorem monotone_float : Measure.Monotone IsWidth IsScale where
  isWidth_of_isScale := fun ⟨v, hv, _⟩ => ⟨v, hv⟩
  le_refl := fun ⟨_, hx⟩ => (hx.le_iff hx).mpr le_rfl
  le_trans := fun ⟨_, hx⟩ ⟨_, hy⟩ ⟨_, hz⟩ hxy hyz =>
    (hx.le_iff hz).mpr (((hx.le_iff hy).mp hxy).trans ((hy.le_iff hz).mp hyz))
  isWidth_nothing := ⟨0, .zero .negative⟩
  isWidth_ofMinutes n := ⟨_, holds_toFloat n⟩
  ofMinutes_le
  isScale_ofMinutes
  isWidth_add := fun ⟨_, hx⟩ ⟨_, hy⟩ => ⟨_, hx.add hy⟩
  add_le_add
  le_add
  isWidth_div := fun ⟨_, hx⟩ ⟨_, hc, hpos, hfinite⟩ => ⟨_, hx.div hc hpos hfinite⟩
  div_le_div
  isWidth_mul := fun ⟨_, hx⟩ ⟨_, hc, hpos, hfinite⟩ => ⟨_, hx.mul hc hpos hfinite⟩
  mul_le_mul

end Double

/-! ## Tasks -/

/-- The constants of the estimate are finite and positive. -/
structure Metrics.Usable (m : Metrics Float) : Prop where
  gridWidth : Settings.usableWidth m.gridWidth = true
  asciiWidth : Settings.usableWidth m.asciiWidth = true
  wideWidth : Settings.usableWidth m.wideWidth = true

/-- These are the constants that validation accepts. -/
theorem Metrics.usable_iff_valid {m : Metrics Float} :
    m.Usable ↔ { Settings.default with metrics := m }.Valid := by
  rw [Settings.valid_iff]
  obtain ⟨hfield, hdelimiter, -, -, -, hpreview⟩ := Settings.valid_iff.mp Settings.valid_default
  constructor
  · intro h
    exact ⟨hfield, hdelimiter, h.gridWidth, h.asciiWidth, h.wideWidth, hpreview⟩
  · rintro ⟨-, -, hgrid, hascii, hwide, -⟩
    exact ⟨hgrid, hascii, hwide⟩

theorem Metrics.Usable.sound {m : Metrics Float} (h : m.Usable)
    (hwide : m.asciiWidth ≤ m.wideWidth) : m.Sound Double.IsScale where
  gridWidth := Double.isScale_of_usableWidth h.gridWidth
  asciiWidth := Double.isScale_of_usableWidth h.asciiWidth
  wideWidth := Double.isScale_of_usableWidth h.wideWidth
  ascii_le_wide := hwide

namespace Timeline

/-- **Easing a task brings about no finding**: if there is none on a task of a chart with `total`
minutes, there is none on a task with at least as many minutes whose label is what is left of
the label when characters are taken out and wide ones are written as others. -/
theorem findingUnder?_of_eased {m : Metrics Float} (hm : m.Usable)
    (hwide : m.asciiWidth ≤ m.wideWidth) {total : Nat} (hpos : 0 < total)
    (hrange : total < durationBound) {t t' : Task} (hminutes : t.minutes ≤ t'.minutes)
    (hlabel : Eased t.label t'.label) {index index' : Nat}
    (h : findingUnder? index m total t = none) : findingUnder? index' m total t' = none := by
  rw [findingUnder?_eq_none_iff] at h ⊢
  exact Metrics.fits_of_eased Double.monotone_float (hm.sound hwide) hpos hrange hlabel hminutes h

/-- One of two wide characters is written as another, and the other one is taken out. -/
theorem findingUnder?_of_eased_umlauts :
    let m : Metrics Float := ⟨700, 8.1, 14.3⟩
    findingUnder? 1 m 3 ⟨"Größen".toList, 1, ⟨0, 9⟩⟩ = none ∧
      findingUnder? 2 m 3 ⟨"Groen".toList, 2, ⟨5, 10⟩⟩ = none := by
  have hfits : findingUnder? 1 ⟨700, 8.1, 14.3⟩ 3 ⟨"Größen".toList, 1, ⟨0, 9⟩⟩ = none :=
    findingUnder?_eq_none_iff.mpr (by decide +kernel)
  have hlabel : Eased "Größen".toList "Groen".toList :=
    .keep 'G' (.keep 'r' (.narrow (by decide) (by decide) (.drop 'ß' (.refl _))))
  exact ⟨hfits, findingUnder?_of_eased ⟨by decide +kernel, by decide +kernel, by decide +kernel⟩
    (by decide +kernel) (by decide) (by decide) (by decide) hlabel hfits⟩

end Timeline

end DiagramLint
