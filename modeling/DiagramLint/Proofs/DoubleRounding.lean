import DiagramLint.Proofs.DoubleBits

/-!
# Rounding in the model of doubles

The model rounds a mantissa by shifting out its last bits one by one.  Two residual bits tell
what has been shifted out: the round bit is the last of these bits, and the sticky bit says
whether there was another one.  For a quotient `num / den`, whose division starts with the
residual bits that its rest calls for, shifting out a bit amounts to doubling the denominator
(`shiftRightOne_extended`), and the residual bits are all that rounding has to know of the
quotient (`roundedMantissa_extended`).

So the model rounds a quotient once, in steps of the binade that it lies in, and a carry into
the next binade is exact: the result is `nearestDouble` (`hasValue_roundWithAccuracy`).
-/

namespace DiagramLint.Double

open Float.Model Float.Model.UnpackedFloat

/-! ## Mantissas with residual bits -/

/-- The quotient `num / den` as a mantissa with a round bit and a sticky bit. -/
def extended (num den : ℕ) : ExtendedMantissa :=
  .ofMantissaAndAccuracy (num / den) (accuracyOfFraction (num % den) den)

theorem accuracy_extended (num den : ℕ) :
    (extended num den).accuracy = accuracyOfFraction (num % den) den := by
  unfold extended
  cases accuracyOfFraction (num % den) den with
  | exact => rfl
  | inexact o => cases o <;> rfl

theorem mantissa_extended (num den : ℕ) : (extended num den).mantissa = num / den := by
  unfold extended
  cases accuracyOfFraction (num % den) den with
  | exact => rfl
  | inexact o => cases o <;> rfl

/-- **The residual bits suffice to round the quotient.** -/
theorem roundedMantissa_extended (num : ℕ) {den : ℕ} (hden : 0 < den) :
    (extended num den).roundedMantissa = nearestEven num den := by
  rw [ExtendedMantissa.roundedMantissa, accuracy_extended, mantissa_extended]
  unfold accuracyOfFraction nearestEven
  by_cases hzero : num % den = 0
  · simp [hzero, hden, Accuracy.roundToNearestEven]
  · rw [if_neg hzero]
    rcases Nat.lt_trichotomy (2 * (num % den)) den with hlt | heq | hgt
    · simp [Nat.compare_eq_lt.mpr hlt, hlt, Accuracy.roundToNearestEven]
    · rw [Nat.compare_eq_eq.mpr heq]
      simp only [heq, Accuracy.roundToNearestEven, lt_irrefl, true_and, false_or]
      split <;> omega
    · simp [Nat.compare_eq_gt.mpr hgt, hgt.ne', hgt.not_gt, Accuracy.roundToNearestEven]

/-- The round bit says whether the rest is at least a half, the sticky bit whether it is neither
nothing nor a half. -/
theorem extended_eq (num : ℕ) {den : ℕ} (hden : 0 < den) :
    extended num den =
      ⟨num / den, decide (den ≤ 2 * (num % den)),
        decide (num % den ≠ 0 ∧ 2 * (num % den) ≠ den)⟩ := by
  unfold extended accuracyOfFraction
  by_cases hzero : num % den = 0
  · simp [hzero, hden.ne', ExtendedMantissa.ofMantissaAndAccuracy]
  · rw [if_neg hzero]
    rcases Nat.lt_trichotomy (2 * (num % den)) den with hlt | heq | hgt
    · simp [Nat.compare_eq_lt.mpr hlt, hzero, hlt, hlt.ne, ExtendedMantissa.ofMantissaAndAccuracy]
    · simp [hzero, heq, ExtendedMantissa.ofMantissaAndAccuracy]
    · simp [Nat.compare_eq_gt.mpr hgt, hzero, hgt.le, hgt.ne',
        ExtendedMantissa.ofMantissaAndAccuracy]

/-- Shifting out a bit doubles the denominator: the last bit of the mantissa tells whether the
rest of the halved quotient is at least a half. -/
theorem shiftRightOne_extended (num : ℕ) {den : ℕ} (hden : 0 < den) :
    (extended num den).shiftRightOne = extended num (den * 2) := by
  have hmod := Nat.mod_lt num hden
  have hdiv : num / (den * 2) = num / den / 2 := (Nat.div_div_eq_div_mul ..).symm
  have hrest : num % (den * 2) = num % den + den * (num / den % 2) := Nat.mod_mul
  rw [extended_eq num hden, extended_eq num (by omega), hdiv, hrest,
    ExtendedMantissa.shiftRightOne, ExtendedMantissa.mk.injEq]
  refine ⟨rfl, Bool.eq_iff_iff.mpr ?_, Bool.eq_iff_iff.mpr ?_⟩ <;>
    simp only [bne_iff_ne, Bool.or_eq_true, decide_eq_true_eq]
  all_goals
    rcases Nat.mod_two_eq_zero_or_one (num / den) with heven | hodd
    · rw [heven, Nat.mul_zero]
      omega
    · rw [hodd, Nat.mul_one]
      omega

theorem extended_shiftRight (num : ℕ) {den : ℕ} (hden : 0 < den) (k : ℕ) :
    extended num den >>> k = extended num (den * 2 ^ k) := by
  show k.repeat ExtendedMantissa.shiftRightOne (extended num den) = _
  induction k with
  | zero => rw [Nat.pow_zero, Nat.mul_one]; rfl
  | succ k ih =>
      rw [Nat.repeat, ih, shiftRightOne_extended num (Nat.mul_pos hden (Nat.two_pow_pos k)),
        Nat.mul_assoc, ← Nat.pow_succ]

/-! ## Rounding -/

theorem targetExponent_eq (t : ℤ) :
    Format.binary64.targetExponent t = max (t - 53) (-unitExponent) :=
  rfl

theorem targetExponent_totalExponent (m : ℕ) (e : ℤ) :
    Format.binary64.targetExponent (totalExponent m e) = max (m.log2 + e - 52) (-unitExponent) := by
  rw [targetExponent_eq, totalExponent]
  omega

/-- Shifting to the target exponent keeps the quotient. -/
theorem shiftToTargetExponent_quotient (num : ℕ) {den : ℕ} (hden : 0 < den) {e : ℤ} {s : ℕ}
    (hs : (max ((num / den).log2 + e - 52) (-unitExponent) - e).toNat = s) :
    shiftToTargetExponent .binary64 (num / den) e (accuracyOfFraction (num % den) den) =
      (extended num (den * 2 ^ s), e + s) := by
  rw [shiftToTargetExponent, shiftToExponent, targetExponent_totalExponent, hs,
    ← extended_shiftRight num hden]
  rfl

theorem shiftToTargetExponent_exact (m : ℕ) {e : ℤ} {s : ℕ}
    (hs : (max (m.log2 + e - 52) (-unitExponent) - e).toNat = s) :
    shiftToTargetExponent .binary64 m e .exact = (extended m (2 ^ s), e + s) := by
  have h := shiftToTargetExponent_quotient m Nat.one_pos (e := e) (s := s) (by rwa [Nat.div_one])
  rwa [Nat.div_one, Nat.mod_one, Nat.one_mul] at h

/-- The double with a mantissa and an exponent, or zero when there is no mantissa. -/
def ofMantissa (m : ℕ) (e : ℤ) : UnpackedFloat :=
  if h : m = 0 then .zero .positive else .finite .positive m e (Nat.pos_of_ne_zero h)

theorem hasValue_ofMantissa {m k : ℕ} (hm : m < 2 ^ 53) (hle : k = 0 ∨ 2 ^ 52 ≤ m) :
    HasValue (stored (ofMantissa m ((k : ℤ) - unitExponent))) (min infinity (m * 2 ^ k)) := by
  by_cases hzero : m = 0
  · rw [ofMantissa, dif_pos hzero, hzero, Nat.zero_mul, Nat.min_zero]
    exact .zero .positive
  · rw [ofMantissa, dif_neg hzero]
    exact hasValue_pack _ ⟨hm, hle⟩

/-- A number of steps as a double, with the shift that a carry needs. -/
def ofSteps (r : ℕ) (e : ℤ) : UnpackedFloat :=
  let (final, exponent) := shiftToTargetExponent .binary64 r e .exact
  ofMantissa final.mantissa exponent

/-- Rounding shifts the mantissa, rounds it once, and then has no bits to lose. -/
theorem roundWithAccuracy_eq (m : ℕ) (e : ℤ) (accuracy : Accuracy) :
    roundWithAccuracy .binary64 .positive m e accuracy =
      ofSteps (shiftToTargetExponent .binary64 m e accuracy).1.roundedMantissa
        (shiftToTargetExponent .binary64 m e accuracy).2 :=
  rfl

theorem ofSteps_eq (r : ℕ) {e : ℤ} {s : ℕ}
    (hs : (max (r.log2 + e - 52) (-unitExponent) - e).toNat = s) :
    ofSteps r e = ofMantissa (r / 2 ^ s) (e + s) := by
  rw [ofSteps, shiftToTargetExponent_exact r hs, ← mantissa_extended]

theorem ofSteps_of_lt {r k : ℕ} (h : r < 2 ^ 53) :
    ofSteps r ((k : ℤ) - unitExponent) = ofMantissa r ((k : ℤ) - unitExponent) := by
  have hlog : r.log2 ≤ 52 := by
    by_cases hr : r = 0
    · rw [hr, Nat.log2_zero]
      exact Nat.zero_le 52
    · exact Nat.le_of_lt_succ ((Nat.log2_lt hr).mpr h)
  rw [ofSteps_eq r (s := 0) (by omega), Nat.pow_zero, Nat.div_one, Int.natCast_zero, Int.add_zero]

/-- A mantissa that rounding has carried to 54 bits is a power of two. -/
theorem ofSteps_carry (k : ℕ) :
    ofSteps (2 ^ 53) ((k : ℤ) - unitExponent) =
      ofMantissa (2 ^ 52) (((k + 1 : ℕ) : ℤ) - unitExponent) := by
  have hlog : (2 ^ 53).log2 = 53 := Nat.log2_two_pow
  rw [ofSteps_eq (2 ^ 53) (s := 1) (by rw [hlog]; omega), Nat.pow_div (by decide) (by decide)]
  congr 1
  omega

theorem hasValue_ofSteps {r k : ℕ} (hr : r ≤ 2 ^ 53) (hle : k = 0 ∨ 2 ^ 52 ≤ r) :
    HasValue (stored (ofSteps r ((k : ℤ) - unitExponent))) (min infinity (r * 2 ^ k)) := by
  rcases hr.lt_or_eq with hlt | rfl
  · rw [ofSteps_of_lt hlt]
    exact hasValue_ofMantissa hlt hle
  · rw [ofSteps_carry, show 2 ^ 53 * 2 ^ k = 2 ^ 52 * 2 ^ (k + 1) by ring]
    exact hasValue_ofMantissa (by decide) (.inr le_rfl)

/-- The shift to the target exponent leads to the binade of the quotient. -/
theorem inBinade_of_shift (num : ℕ) {den a b s k : ℕ} (hden : 0 < den)
    (hs : max ((num / den).log2 + ((a : ℤ) - b) - 52) (-unitExponent) = (a : ℤ) - b + s)
    (hk : a + unitExponent + s = b + k) :
    InBinade (num * 2 ^ (a + unitExponent)) (den * 2 ^ b) k := by
  constructor
  · have hlt : num < 2 ^ (s + 53) * den := by
      rw [← Nat.div_lt_iff_lt_mul hden]
      exact Nat.lt_log2_self.trans_le (Nat.pow_le_pow_right (by decide) (by omega))
    calc num * 2 ^ (a + unitExponent) < 2 ^ (s + 53) * den * 2 ^ (a + unitExponent) :=
          Nat.mul_lt_mul_of_pos_right hlt (Nat.two_pow_pos _)
      _ = 2 ^ (a + unitExponent + s) * (2 ^ 53 * den) := by ring
      _ = 2 ^ (b + k) * (2 ^ 53 * den) := by rw [hk]
      _ = 2 ^ (k + 53) * (den * 2 ^ b) := by ring
  · by_cases hdensest : k = 0
    · exact .inl hdensest
    · have hlog : (num / den).log2 = s + 52 := by omega
      have hne : num / den ≠ 0 := by
        intro hzero
        rw [hzero, Nat.log2_zero] at hlog
        omega
      have hle : 2 ^ (s + 52) * den ≤ num := by
        rw [← Nat.le_div_iff_mul_le hden, ← hlog]
        exact Nat.log2_self_le hne
      right
      calc 2 ^ (k + 52) * (den * 2 ^ b) = 2 ^ (b + k) * (2 ^ 52 * den) := by ring
        _ = 2 ^ (a + unitExponent + s) * (2 ^ 52 * den) := by rw [hk]
        _ = 2 ^ (s + 52) * den * 2 ^ (a + unitExponent) := by ring
        _ ≤ num * 2 ^ (a + unitExponent) := Nat.mul_le_mul_right _ hle

/-- **The model rounds a quotient to the nearest double**, provided that the mantissa has bits
enough, or is not to be shifted to the left. -/
theorem hasValue_roundWithAccuracy (num : ℕ) {den a b : ℕ} (hden : 0 < den)
    (hbits : 52 ≤ (num / den).log2 ∨ a + unitExponent ≤ b) :
    HasValue
      (stored (roundWithAccuracy .binary64 .positive (num / den) ((a : ℤ) - b)
        (accuracyOfFraction (num % den) den)))
      (nearestDouble (num * 2 ^ (a + unitExponent)) (den * 2 ^ b)) := by
  obtain ⟨s, hs⟩ : ∃ s : ℕ,
      max ((num / den).log2 + ((a : ℤ) - b) - 52) (-unitExponent) = (a : ℤ) - b + s :=
    ⟨(max ((num / den).log2 + ((a : ℤ) - b) - 52) (-unitExponent) - ((a : ℤ) - b)).toNat,
      by omega⟩
  obtain ⟨k, hk⟩ : ∃ k, a + unitExponent + s = b + k :=
    ⟨a + unitExponent + s - b, by omega⟩
  have hbinade := inBinade_of_shift num hden hs hk
  -- counted in steps of the binade, the quotient of units is the shifted quotient of mantissas
  have hden' : 0 < den * 2 ^ b := Nat.mul_pos hden (Nat.two_pow_pos b)
  have hsteps : nearestEven (num * 2 ^ (a + unitExponent)) (den * 2 ^ b * 2 ^ k) =
      nearestEven num (den * 2 ^ s) := by
    have hscaled : den * 2 ^ b * 2 ^ k = den * 2 ^ s * 2 ^ (a + unitExponent) := by
      rw [Nat.mul_assoc, Nat.mul_assoc, ← Nat.pow_add, ← Nat.pow_add, ← hk, Nat.add_comm s]
    rw [hscaled, nearestEven_mul_right _ _ (Nat.two_pow_pos _)]
  obtain ⟨hupper, hlower⟩ := hbinade.nearestEven_bounds hden'
  rw [nearestDouble_eq hden' hbinade, roundWithAccuracy_eq,
    shiftToTargetExponent_quotient num hden (s := s) (by omega),
    roundedMantissa_extended num (Nat.mul_pos hden (Nat.two_pow_pos s)), hsteps,
    show (a : ℤ) - b + s = k - unitExponent by omega]
  rw [hsteps] at hupper hlower
  exact hasValue_ofSteps hupper hlower

end DiagramLint.Double
