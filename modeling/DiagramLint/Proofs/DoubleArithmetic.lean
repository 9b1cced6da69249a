import DiagramLint.Proofs.DoubleRounding

/-!
# Arithmetic on doubles

Sums, products and quotients of doubles from zero on are the exact ones, rounded to the nearest
double, and so is a natural number that is made a double.  Counted in units they are quotients
of natural numbers: a sum of units is divided by nothing, a product counts units of units, and
in a quotient the units cancel.  Infinity, the power of two behind the doubles, needs no case of
its own in a sum; its products and quotients are infinite.
-/

namespace DiagramLint.Double

open Float.Model Float.Model.UnpackedFloat

/-! ## Sums -/

theorem log2_add_le {m : ℕ} (hm : 0 < m) (s : ℕ) : m.log2 + s ≤ (m * 2 ^ s).log2 := by
  rw [Nat.le_log2 (Nat.mul_pos hm (Nat.two_pow_pos s)).ne', Nat.pow_add]
  exact Nat.mul_le_mul_right _ (Nat.log2_self_le hm.ne')

/-- A mantissa with too few bits is shifted to the left before it is rounded. -/
theorem hasValue_round {m : ℕ} (hm : 0 < m) (a b : ℕ) :
    HasValue (stored (UnpackedFloat.round .binary64 .positive m ((a : ℤ) - b)))
      (nearestDouble (m * 2 ^ (a + unitExponent)) (2 ^ b)) := by
  obtain ⟨s, hs⟩ : ∃ s : ℕ,
      ((a : ℤ) - b - max (m.log2 + ((a : ℤ) - b) - 52) (-unitExponent)).toNat = s := ⟨_, rfl⟩
  have hlog := log2_add_le hm s
  have h := hasValue_roundWithAccuracy (m * 2 ^ s) Nat.one_pos (a := a) (b := b + s)
    (by rw [Nat.div_one]; omega)
  rw [Nat.div_one, Nat.mod_one, show (a : ℤ) - (b + s : ℕ) = a - b - s by omega,
    nearestDouble_congr (m * 2 ^ (a + unitExponent)) (2 ^ b)
      (Nat.mul_pos Nat.one_pos (Nat.two_pow_pos _)) (Nat.two_pow_pos b) (by ring)] at h
  rwa [UnpackedFloat.round, targetExponent_totalExponent, decreaseExponent, hs,
    Nat.shiftLeft_eq]

theorem normalize_natCast {m : ℕ} (hm : 0 < m) (e : ℤ) (s : Sign) :
    UnpackedFloat.normalize .binary64 (m : ℤ) e s = UnpackedFloat.round .binary64 .positive m e := by
  rw [UnpackedFloat.normalize, Int.compare_eq_gt.mpr (by omega)]
  rfl

/-- Two numbers are added in steps of the denser one of their binades. -/
theorem add_finite_eq {m m' i i' : ℕ} {e e' : ℤ} (j : ℤ) (pos : 0 < m) (pos' : 0 < m')
    (he : e = j + i) (he' : e' = j + i') (hmin : min e e' = j) :
    UnpackedFloat.add .binary64 (.finite .positive m e pos) (.finite .positive m' e' pos') =
      UnpackedFloat.round .binary64 .positive (m * 2 ^ i + m' * 2 ^ i') j := by
  have hshift : (e - j).toNat = i := by omega
  have hshift' : (e' - j).toNat = i' := by omega
  show UnpackedFloat.normalize .binary64
    (((m <<< (e - min e e').toNat : ℕ) : ℤ) + (m' <<< (e' - min e e').toNat : ℕ))
    (min e e') .positive = _
  rw [hmin, hshift, hshift', Nat.shiftLeft_eq, Nat.shiftLeft_eq, ← Nat.cast_add,
    normalize_natCast (Nat.add_pos_left (Nat.mul_pos pos (Nat.two_pow_pos i)) _)]

theorem hasValue_add_number {m m' : ℕ} (pos : 0 < m) (pos' : 0 < m') (k k' : ℕ) :
    HasValue (stored (UnpackedFloat.add .binary64 (number pos k) (number pos' k')))
      (nearestDouble (m * 2 ^ k + m' * 2 ^ k') 1) := by
  obtain ⟨j, i, i', hj, rfl, rfl⟩ : ∃ j i i', min k k' = j ∧ k = j + i ∧ k' = j + i' :=
    ⟨min k k', k - min k k', k' - min k k', by omega⟩
  have hsum : 0 < m * 2 ^ i + m' * 2 ^ i' :=
    Nat.add_pos_left (Nat.mul_pos pos (Nat.two_pow_pos i)) _
  have he : ((j + i : ℕ) : ℤ) - unitExponent = j - unitExponent + i := by omega
  have he' : ((j + i' : ℕ) : ℤ) - unitExponent = j - unitExponent + i' := by omega
  rw [number, number, add_finite_eq (j - unitExponent) pos pos' he he' (by omega),
    nearestDouble_congr ((m * 2 ^ i + m' * 2 ^ i') * 2 ^ (j + unitExponent))
      (2 ^ unitExponent) Nat.one_pos (Nat.two_pow_pos _) (by ring)]
  exact hasValue_round hsum j unitExponent

/-- **The sum of doubles** is the sum of their values, rounded. -/
theorem HasValue.add {u u' : UnpackedFloat} {v v' : ℕ} (h : HasValue u v)
    (h' : HasValue u' v') :
    HasValue (stored (UnpackedFloat.add .binary64 u u')) (nearestDouble (v + v') 1) := by
  cases h with
  | zero s =>
      rw [Nat.zero_add, h'.nearestDouble_eq]
      cases h' with
      | zero s' => cases s <;> cases s' <;> exact (HasValue.zero _).pack
      | finite pos canonical small exponent value =>
          exact (HasValue.finite pos canonical small exponent value).pack
      | infinite => exact HasValue.infinite.pack
  | finite pos canonical small exponent value =>
      cases h' with
      | zero s' =>
          have h := HasValue.finite pos canonical small exponent value
          rw [Nat.add_zero, h.nearestDouble_eq]
          exact h.pack
      | finite pos' canonical' small' exponent' value' =>
          subst exponent value exponent' value'
          exact hasValue_add_number pos pos' _ _
      | infinite =>
          rw [nearestDouble_of_infinity_le (Nat.le_add_left ..)]
          exact HasValue.infinite.pack
  | infinite =>
      rw [nearestDouble_of_infinity_le (Nat.le_add_right ..)]
      cases h' <;> exact HasValue.infinite.pack

/-! ## Products and quotients with a positive number -/

/-- The result of an operation on a number, and infinity when the operand is infinite. -/
def unlessInfinite (v result : ℕ) : ℕ := if v = infinity then infinity else result

theorem unlessInfinite_le {v v' r r' : ℕ} (hv' : v' ≤ infinity) (hr : r ≤ infinity)
    (hle : v ≤ v') (hrle : r ≤ r') : unlessInfinite v r ≤ unlessInfinite v' r' := by
  unfold unlessInfinite
  split <;> split <;> omega

theorem mul_finite_eq {m m' : ℕ} {e e' : ℤ} (pos : 0 < m) (pos' : 0 < m') :
    UnpackedFloat.mul .binary64 (.finite .positive m e pos) (.finite .positive m' e' pos') =
      roundWithAccuracy .binary64 .positive (m * m') (e + e') .exact :=
  rfl

/-- A product of canonical mantissas has bits enough, unless both lie in the densest binade. -/
theorem hasValue_mul_number {m m' k k' : ℕ} (pos : 0 < m) (pos' : 0 < m') (h : IsMantissa m k)
    (h' : IsMantissa m' k') :
    HasValue (stored (UnpackedFloat.mul .binary64 (number pos k) (number pos' k')))
      (nearestDouble (m * 2 ^ k * (m' * 2 ^ k')) one) := by
  have hbits : 52 ≤ (m * m' / 1).log2 ∨
      k + k' + unitExponent ≤ unitExponent + unitExponent := by
    rw [Nat.div_one, Nat.le_log2 (Nat.mul_pos pos pos').ne']
    rcases h.le with hk | hle
    · rcases h'.le with hk' | hle'
      · exact .inr (by omega)
      · exact .inl (hle'.trans (Nat.le_mul_of_pos_left m' pos))
    · exact .inl (hle.trans (Nat.le_mul_of_pos_right m pos'))
  have hround := hasValue_roundWithAccuracy (m * m') Nat.one_pos hbits
  have hexponent : ((k + k' : ℕ) : ℤ) - (unitExponent + unitExponent : ℕ) =
      k - unitExponent + (k' - unitExponent) := by omega
  rw [Nat.div_one, Nat.mod_one, hexponent] at hround
  rw [nearestDouble_congr (m * m' * 2 ^ (k + k' + unitExponent))
    (1 * 2 ^ (unitExponent + unitExponent)) one_pos
    (Nat.mul_pos Nat.one_pos (Nat.two_pow_pos _)) (by rw [one]; ring)]
  exact hround

/-- **The product of a double with a positive number** is the product of their values,
rounded. -/
theorem HasValue.mul {u u' : UnpackedFloat} {v v' : ℕ} (h : HasValue u v) (h' : HasValue u' v')
    (hpos : 0 < v') (hfinite : v' < infinity) :
    HasValue (stored (UnpackedFloat.mul .binary64 u u'))
      (unlessInfinite v (nearestDouble (v * v') one)) := by
  obtain ⟨m', k', pos', canonical', rfl, rfl⟩ := h'.exists_number hpos hfinite
  unfold unlessInfinite
  cases h with
  | zero s =>
      rw [if_neg infinity_pos.ne, Nat.zero_mul, nearestDouble_zero]
      cases s <;> exact (HasValue.zero _).pack
  | finite pos canonical small exponent value =>
      subst exponent value
      rw [if_neg (canonical.lt_infinity small).ne]
      exact hasValue_mul_number pos pos' canonical canonical'
  | infinite =>
      rw [if_pos rfl]
      exact HasValue.infinite.pack

theorem le_log2_div {m m' s : ℕ} (pos : 0 < m) (pos' : 0 < m')
    (h : m'.log2 + 53 ≤ m.log2 + s) : 52 ≤ (m * 2 ^ s / m').log2 := by
  have hle : 2 ^ 52 ≤ m * 2 ^ s / m' := by
    rw [Nat.le_div_iff_mul_le pos']
    calc 2 ^ 52 * m' ≤ 2 ^ 52 * 2 ^ (m'.log2 + 1) := Nat.mul_le_mul_left _ Nat.lt_log2_self.le
      _ = 2 ^ (m'.log2 + 53) := by ring
      _ ≤ 2 ^ (m.log2 + s) := Nat.pow_le_pow_right (by decide) h
      _ = 2 ^ m.log2 * 2 ^ s := Nat.pow_add 2 _ _
      _ ≤ m * 2 ^ s := Nat.mul_le_mul_right _ (Nat.log2_self_le pos.ne')
  have hne : m * 2 ^ s / m' ≠ 0 := (Nat.lt_of_lt_of_le (Nat.two_pow_pos 52) hle).ne'
  exact (Nat.le_log2 hne).mpr hle

/-- The dividend is shifted to the left until the quotient has bits enough. -/
theorem div_number_eq {m m' : ℕ} (pos : 0 < m) (pos' : 0 < m') (k k' : ℕ) :
    ∃ s : ℕ, (52 ≤ (m * 2 ^ s / m').log2 ∨ k + unitExponent ≤ k' + s) ∧
      UnpackedFloat.div .binary64 (number pos k) (number pos' k') =
        roundWithAccuracy .binary64 .positive (m * 2 ^ s / m') ((k : ℤ) - (k' + s : ℕ))
          (accuracyOfFraction (m * 2 ^ s % m') m') := by
  obtain ⟨s, hs⟩ : ∃ s : ℕ, min ((k : ℤ) - unitExponent - (k' - unitExponent))
      (max (totalExponent m (k - unitExponent) - totalExponent m' (k' - unitExponent) - 53)
        (-unitExponent)) = (k : ℤ) - (k' + s : ℕ) :=
    ⟨((k : ℤ) - k' - min ((k : ℤ) - unitExponent - (k' - unitExponent))
      (max (totalExponent m (k - unitExponent) - totalExponent m' (k' - unitExponent) - 53)
        (-unitExponent))).toNat, by omega⟩
  have hshift :
      ((k : ℤ) - unitExponent - (k' - unitExponent) - (k - (k' + s : ℕ))).toNat = s := by omega
  refine ⟨s, ?_, ?_⟩
  · by_cases hfar : k + unitExponent ≤ k' + s
    · exact .inr hfar
    · have hlog : m'.log2 + 53 ≤ m.log2 + s := by
        simp only [totalExponent] at hs
        omega
      exact .inl (le_log2_div pos pos' hlog)
  · have hcore : divCore .binary64 m (k - unitExponent) m' (k' - unitExponent) =
        (m * 2 ^ s / m', (k : ℤ) - (k' + s : ℕ), accuracyOfFraction (m * 2 ^ s % m') m') := by
      simp only [divCore, targetExponent_eq, hs, hshift, Nat.shiftLeft_eq]
    show roundWithAccuracy .binary64 .positive (divCore _ _ _ _ _).1 (divCore _ _ _ _ _).2.1
      (divCore _ _ _ _ _).2.2 = _
    rw [hcore]

theorem hasValue_div_number {m m' : ℕ} (pos : 0 < m) (pos' : 0 < m') (k k' : ℕ) :
    HasValue (stored (UnpackedFloat.div .binary64 (number pos k) (number pos' k')))
      (nearestDouble (m * 2 ^ k * one) (m' * 2 ^ k')) := by
  obtain ⟨s, hbits, hdiv⟩ := div_number_eq pos pos' k k'
  rw [hdiv, nearestDouble_congr (m * 2 ^ s * 2 ^ (k + unitExponent)) (m' * 2 ^ (k' + s))
    (Nat.mul_pos pos' (Nat.two_pow_pos _))
    (Nat.mul_pos pos' (Nat.two_pow_pos _)) (by rw [one]; ring)]
  exact hasValue_roundWithAccuracy (m * 2 ^ s) pos' hbits

/-- **The quotient of a double by a positive number** is the quotient of their values,
rounded. -/
theorem HasValue.div {u u' : UnpackedFloat} {v v' : ℕ} (h : HasValue u v) (h' : HasValue u' v')
    (hpos : 0 < v') (hfinite : v' < infinity) :
    HasValue (stored (UnpackedFloat.div .binary64 u u'))
      (unlessInfinite v (nearestDouble (v * one) v')) := by
  obtain ⟨m', k', pos', -, rfl, rfl⟩ := h'.exists_number hpos hfinite
  unfold unlessInfinite
  cases h with
  | zero s =>
      rw [if_neg infinity_pos.ne, Nat.zero_mul, nearestDouble_zero]
      cases s <;> exact (HasValue.zero _).pack
  | finite pos canonical small exponent value =>
      subst exponent value
      rw [if_neg (canonical.lt_infinity small).ne]
      exact hasValue_div_number pos pos' _ _
  | infinite =>
      rw [if_pos rfl]
      exact HasValue.infinite.pack

/-! ## Natural numbers -/

theorem hasValue_ofNat (n : ℕ) :
    HasValue (stored (UnpackedFloat.ofNat .binary64 n)) (nearestDouble (n * one) 1) := by
  rcases n.eq_zero_or_pos with rfl | hn
  · rw [Nat.zero_mul, nearestDouble_zero]
    exact (HasValue.zero .positive).pack
  · have h := hasValue_round hn 0 0
    rw [UnpackedFloat.ofNat, UnpackedFloat.ofInt, normalize_natCast hn]
    rwa [Nat.zero_add] at h

theorem hasValue_ofScientific {n : ℕ} (hn : 0 < n) :
    HasValue (Float.Model.ofScientific n 0).unpack (nearestDouble (n * one) 1) := by
  have hbits : 52 ≤ (n * 2 ^ 53 / 1).log2 ∨ 0 + unitExponent ≤ 53 := by
    have hlog := log2_add_le hn 53
    rw [Nat.div_one]
    omega
  have hround := hasValue_roundWithAccuracy (n * 2 ^ 53) Nat.one_pos hbits
  have hsmall : ¬ (0 : ℤ) < -((2 : ℤ) ^ Format.binary64.exponentBits + n.log2) := by
    have : (0 : ℤ) ≤ 2 ^ Format.binary64.exponentBits := by decide
    omega
  rw [Nat.div_one, Nat.mod_one] at hround
  rw [Float.Model.ofScientific, UnpackedFloat.ofScientific, dif_neg hn.ne', if_neg (by decide),
    if_neg hsmall, if_pos (by decide),
    nearestDouble_congr (n * 2 ^ 53 * 2 ^ (0 + unitExponent)) (1 * 2 ^ 53)
      Nat.one_pos (by decide) (by rw [one]; ring)]
  rw [mul_finite_eq, Int.toNat_zero, Nat.pow_zero, Nat.mul_one, Nat.shiftLeft_eq]
  exact hround

/-- The double one, by its bits. -/
def oneBits : UInt64 := 0x3FF0000000000000

theorem unpack_oneBits :
    (Float.ofBits oneBits).toModel.unpack = .finite .positive (2 ^ 52) (-52) (by decide) := by
  rfl

theorem hasValue_oneBits : HasValue (Float.ofBits oneBits).toModel.unpack one := by
  have hle : 52 ≤ unitExponent := by decide
  rw [unpack_oneBits]
  refine .finite (k := unitExponent - 52) _ (isMantissa_first _) (by decide) (by omega) ?_
  rw [one, ← Nat.pow_add, Nat.add_sub_cancel' hle]

theorem nearestDouble_mul_one_pos {n : ℕ} (h : 0 < n) : 0 < nearestDouble (n * one) 1 :=
  calc 0 < one := one_pos
    _ = nearestDouble (1 * one) 1 := by rw [Nat.one_mul, hasValue_oneBits.nearestDouble_eq]
    _ ≤ nearestDouble (n * one) 1 := nearestDouble_le Nat.one_pos (Nat.mul_le_mul_right one h)

/-- **A natural number as a double** is the number, rounded.  Small numbers are converted as
machine words and multiplied by the power of ten that is one. -/
theorem hasValue_toFloat (n : ℕ) :
    HasValue n.toFloat.toModel.unpack (nearestDouble (n * one) 1) := by
  by_cases h : n < 2 ^ 53
  · have hmod : n.toUInt64.toNat = n := Nat.mod_eq_of_lt (by omega)
    have hword : HasValue n.toUInt64.toFloat.toModel.unpack
        (nearestDouble (n.toUInt64.toNat * one) 1) := hasValue_ofNat _
    rw [hmod] at hword
    have heq : n.toFloat = n.toUInt64.toFloat * Float.ofBits oneBits := by
      show Float.ofScientific n false 0 = _
      rw [Float.ofScientific, dif_pos ⟨h, by decide⟩]
      rfl
    -- the number is rounded once: the factor is one, and what is multiplied is a double
    have hlt : nearestDouble (n * one) 1 < infinity := nearestDouble_mul_one_lt (by omega)
    have hproduct := hword.mul hasValue_oneBits one_pos one_lt_infinity
    rw [unlessInfinite, if_neg hlt.ne, nearestDouble_congr _ 1 one_pos Nat.one_pos
      (Nat.mul_one _), hword.nearestDouble_eq] at hproduct
    rw [heq]
    exact hproduct
  · have heq : n.toFloat = .ofModel (Float.Model.ofScientific n 0) := by
      show Float.ofScientific n false 0 = _
      rw [Float.ofScientific, dif_neg fun h' => h h'.1]
      rfl
    rw [heq]
    exact hasValue_ofScientific (by omega)

end DiagramLint.Double
