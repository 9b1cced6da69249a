import DiagramLint.Proofs.DoubleValues

/-!
# Values in the model of doubles

The logic knows a double by its bits; operations unpack the bits into a sign, a mantissa and an
exponent, and pack their results again.  `HasValue` says which unpacked doubles stand for which
values: the zeros of either sign, the positive doubles in canonical form, and infinity.  No
double below zero has a value, nor what is not a number.

Bits without a sign that are not all ones in the exponent field stand for the value that the
fields say (`hasValue_unpack`); packing keeps the value, or makes it infinite (`hasValue_pack`);
and the order of doubles with values is the order of the values (`HasValue.le_iff`).
-/

namespace DiagramLint.Double

open Float.Model Float.Model.UnpackedFloat

/-- An unpacked double that is not negative, in its canonical form, and its value in units. -/
inductive HasValue : UnpackedFloat → ℕ → Prop
  | zero (s : Sign) : HasValue (.zero s) 0
  | finite {m k v : ℕ} {e : ℤ} (pos : 0 < m) (canonical : IsMantissa m k)
      (small : k ≤ lastBinade) (exponent : e = k - unitExponent) (value : v = m * 2 ^ k) :
      HasValue (.finite .positive m e pos) v
  | infinite : HasValue (.infinity .positive) infinity

/-- The positive double of `m` steps of the binade `k`, before it is packed. -/
abbrev number {m : ℕ} (pos : 0 < m) (k : ℕ) : UnpackedFloat :=
  .finite .positive m ((k : ℤ) - unitExponent) pos

/-- What an unpacked double is when it has been packed into bits. -/
abbrev stored (u : UnpackedFloat) : UnpackedFloat := (Float.Model.pack u).unpack

/-! ## Values and their order -/

theorem HasValue.le_infinity {u : UnpackedFloat} {v : ℕ} (h : HasValue u v) : v ≤ infinity := by
  cases h with
  | zero s => exact Nat.zero_le _
  | finite pos canonical small exponent value =>
      rw [value]
      exact (canonical.lt_infinity small).le
  | infinite => exact le_rfl

/-- The doubles need no rounding. -/
theorem HasValue.nearestDouble_eq {u : UnpackedFloat} {v : ℕ} (h : HasValue u v) :
    nearestDouble v 1 = v := by
  cases h with
  | zero s => exact nearestDouble_zero 1
  | finite pos canonical small exponent value =>
      rw [value, nearestDouble_of_steps canonical, min_eq_right (canonical.lt_infinity small).le]
  | infinite => exact nearestDouble_infinity

/-- A positive value below infinity is that of a number. -/
theorem HasValue.exists_number {u : UnpackedFloat} {v : ℕ} (h : HasValue u v) (hpos : 0 < v)
    (hfinite : v < infinity) :
    ∃ (m k : ℕ) (pos : 0 < m), IsMantissa m k ∧ u = number pos k ∧ v = m * 2 ^ k := by
  cases h with
  | zero s => exact absurd hpos (Nat.lt_irrefl 0)
  | @finite m k _ _ pos canonical small exponent value =>
      refine ⟨m, k, pos, canonical, ?_, value⟩
      rw [number, exponent]
  | infinite => exact absurd hfinite (Nat.lt_irrefl infinity)

/-- **The order of doubles is the order of their values.** -/
theorem HasValue.le_iff {u u' : UnpackedFloat} {v v' : ℕ} (h : HasValue u v)
    (h' : HasValue u' v') : u.le u' = true ↔ v ≤ v' := by
  cases h with
  | zero s =>
      have htrue : (UnpackedFloat.zero s).le u' = true := by cases h' <;> rfl
      exact iff_of_true htrue (Nat.zero_le v')
  | @finite m k v e pos canonical small exponent value =>
      have hpos : 0 < v := value ▸ Nat.mul_pos pos (Nat.two_pow_pos _)
      cases h' with
      | zero s' => exact iff_of_false Bool.false_ne_true (Nat.not_le_of_lt hpos)
      | @finite m' k' v' e' pos' canonical' small' exponent' value' =>
          rw [value, value', canonical.mul_le_mul_iff canonical', exponent, exponent']
          -- exponents are compared first, and mantissas at equal exponents
          show ((compare ((k : ℤ) - unitExponent) (k' - unitExponent)).then
            (compare m m')).isLE = true ↔ _
          rw [Ordering.isLE_then_iff_or, Int.compare_eq_lt, Int.compare_eq_eq, Nat.isLE_compare]
          omega
      | infinite =>
          rw [value]
          exact iff_of_true rfl (canonical.lt_infinity small).le
  | infinite =>
      cases h' with
      | zero s' => exact iff_of_false Bool.false_ne_true (Nat.not_le_of_lt infinity_pos)
      | finite pos canonical small exponent value =>
          rw [value]
          exact iff_of_false Bool.false_ne_true
            (Nat.not_le_of_lt (canonical.lt_infinity small))
      | infinite => exact iff_of_true rfl le_rfl

/-! ## Bits -/

theorem toNat_one_append (m : BitVec 52) : (1#1 ++ m).toNat = 2 ^ 52 + m.toNat := by
  rw [BitVec.toNat_append, ← Nat.shiftLeft_add_eq_or_of_lt m.isLt]
  rfl

theorem toNat_ofNat_of_lt {n x : ℕ} (h : x < 2 ^ n) : (BitVec.ofNat n x).toNat = x := by
  rw [BitVec.toNat_ofNat, Nat.mod_eq_of_lt h]

/-- The value that the fields of a finite double stand for.  Unless the exponent field is zero,
the mantissa has a leading one that is not stored. -/
def fieldValue (exponent : BitVec 11) (mantissa : BitVec 52) : ℕ :=
  if exponent = 0#11 then mantissa.toNat else (2 ^ 52 + mantissa.toNat) * 2 ^ (exponent.toNat - 1)

/-- **What the bits of a finite double stand for.** -/
theorem hasValue_unpack {b : BitVec 64} (hsign : @unpackSign .binary64 b = 0#1)
    (hfinite : @unpackExponent .binary64 b ≠ -1#11) :
    HasValue (UnpackedFloat.unpack .binary64 b)
      (fieldValue (@unpackExponent .binary64 b) (@unpackMantissa .binary64 b)) := by
  have hmantissa : (@unpackMantissa .binary64 b).toNat < 2 ^ 52 := BitVec.isLt _
  have hexponent : (@unpackExponent .binary64 b).toNat < 2 ^ 11 := BitVec.isLt _
  delta UnpackedFloat.unpack
  unfold fieldValue
  rw [if_neg hfinite, hsign]
  by_cases hzero : @unpackExponent .binary64 b = 0#11
  · rw [if_pos hzero, if_pos hzero]
    by_cases hnone : @unpackMantissa .binary64 b = 0#52
    · rw [dif_pos hnone, hnone]
      exact .zero _
    · rw [dif_neg hnone]
      refine .finite (k := 0) _ ⟨by omega, .inl rfl⟩ (by decide) ?_ (by simp)
      rw [hzero]
      rfl
  · have hpos : (@unpackExponent .binary64 b).toNat ≠ 0 :=
      fun h => hzero (BitVec.eq_of_toNat_eq h)
    have hlast : (@unpackExponent .binary64 b).toNat ≠ 2047 :=
      fun h => hfinite (BitVec.eq_of_toNat_eq h)
    rw [if_neg hzero, if_neg hzero, ← toNat_one_append]
    refine .finite _ ⟨?_, .inr ?_⟩ (by unfold lastBinade; omega) ?_ rfl
    · rw [toNat_one_append]
      omega
    · rw [toNat_one_append]
      omega
    · simp [Format.exponentBias, unitExponent]
      omega

/-- What is unpacked to a positive number has a value. -/
theorem hasValue_of_positive {b : BitVec 64} {m : ℕ} {e : ℤ} {pos : 0 < m}
    (h : UnpackedFloat.unpack .binary64 b = .finite .positive m e pos) :
    ∃ v, HasValue (.finite .positive m e pos) v := by
  delta UnpackedFloat.unpack at h
  have hfinite : @unpackExponent .binary64 b ≠ -1#11 := by
    intro hlast
    rw [if_pos hlast] at h
    by_cases hnone : @unpackMantissa .binary64 b = 0#52
    · rw [if_pos hnone] at h
      cases h
    · rw [if_neg hnone] at h
      cases h
  have hsign : @unpackSign .binary64 b = 0#1 := by
    by_contra hnegative
    rw [if_neg hfinite, Sign.ofBitVec, if_neg hnegative] at h
    by_cases hzero : @unpackExponent .binary64 b = 0#11
    · rw [if_pos hzero] at h
      by_cases hnone : @unpackMantissa .binary64 b = 0#52
      · rw [dif_pos hnone] at h
        cases h
      · rw [dif_neg hnone] at h
        cases h
    · rw [if_neg hzero] at h
      cases h
  rw [← h]
  exact ⟨_, hasValue_unpack hsign hfinite⟩

/-- Bits that are put together without a sign have none. -/
theorem unpackSign_of_positive (exponent : BitVec 11) (mantissa : BitVec 52) :
    @unpackSign .binary64 (packComponents .binary64 .positive exponent mantissa) = 0#1 := by
  show (0#1 ++ exponent ++ mantissa).extractLsb' 63 1 = 0#1
  rw [BitVec.extractLsb'_append_eq_of_le (by decide),
    BitVec.extractLsb'_append_eq_of_le (by decide)]
  rfl

theorem hasValue_packComponents (exponent : BitVec 11) (mantissa : BitVec 52)
    (hfinite : exponent ≠ -1#11) :
    HasValue
      (UnpackedFloat.unpack .binary64 (packComponents .binary64 .positive exponent mantissa))
      (fieldValue exponent mantissa) := by
  have h := hasValue_unpack (b := packComponents .binary64 .positive exponent mantissa)
    (unpackSign_of_positive exponent mantissa) (by rwa [unpackExponent_packComponents])
  rwa [unpackExponent_packComponents, unpackMantissa_packComponents] at h

theorem fieldValue_subnormal {m : ℕ} (h : m < 2 ^ 52) :
    fieldValue 0#11 (BitVec.ofNat 52 m) = m := by
  rw [fieldValue, if_pos rfl, toNat_ofNat_of_lt h]

theorem fieldValue_normal {m k : ℕ} (h : IsMantissa m k) (hnormal : 2 ^ 52 ≤ m)
    (hk : k ≤ lastBinade) :
    BitVec.ofNat 11 (k + 1) ≠ -1#11 ∧
      fieldValue (BitVec.ofNat 11 (k + 1)) (BitVec.ofNat 52 m) = m * 2 ^ k := by
  have hlt := h.lt
  have hsmall : k ≤ 2045 := hk
  have hfield : (BitVec.ofNat 11 (k + 1)).toNat = k + 1 := toNat_ofNat_of_lt (by omega)
  have hmantissa : (BitVec.ofNat 52 m).toNat = m - 2 ^ 52 := by
    rw [BitVec.toNat_ofNat]
    omega
  have hzero : BitVec.ofNat 11 (k + 1) ≠ 0#11 := by
    intro heq
    rw [heq] at hfield
    exact absurd hfield (Nat.succ_ne_zero k).symm
  refine ⟨?_, ?_⟩
  · intro heq
    rw [heq] at hfield
    have : 2047 = k + 1 := hfield
    omega
  · rw [fieldValue, if_neg hzero, hfield, hmantissa, Nat.add_sub_cancel' hnormal,
      Nat.add_sub_cancel]

/-- **Packing keeps the value**, or makes it infinite when its exponent is too large. -/
theorem hasValue_pack {m k : ℕ} (hm : 0 < m) (h : IsMantissa m k) :
    HasValue (stored (number hm k)) (min infinity (m * 2 ^ k)) := by
  have hbiased : ((k : ℤ) - unitExponent + Format.binary64.exponentBias
      + Format.binary64.mantissaBitsWithoutImplicit).toNat = k + 1 := by
    simp [Format.exponentBias, unitExponent]
    omega
  unfold stored Float.Model.unpack Float.Model.pack
  delta UnpackedFloat.pack
  dsimp only
  rw [hbiased]
  by_cases hbig : lastBinade < k
  · rw [if_pos (by unfold lastBinade at hbig; omega), min_eq_left (h.infinity_le hbig)]
    exact .infinite
  have hsmall : k ≤ 2045 := Nat.le_of_not_lt hbig
  rw [if_neg (by omega), min_eq_right (h.lt_infinity hsmall).le]
  by_cases hnormal : 2 ^ 52 ≤ m
  · have hlog : m.log2 + 1 = Format.binary64.mantissaBits := by
      rw [(Nat.log2_eq_iff hm.ne').mpr ⟨hnormal, h.lt⟩]
      rfl
    obtain ⟨hfinite, hvalue⟩ := fieldValue_normal h hnormal hsmall
    rw [if_pos hlog, ← hvalue]
    exact hasValue_packComponents _ _ hfinite
  · have hlt := Nat.lt_of_not_le hnormal
    have hlog : m.log2 + 1 ≠ Format.binary64.mantissaBits := by
      have := (Nat.log2_lt hm.ne').mpr hlt
      show m.log2 + 1 ≠ 53
      omega
    obtain rfl : k = 0 := h.le.resolve_right hnormal
    have hvalue := hasValue_packComponents 0#11 (BitVec.ofNat 52 m) (by decide)
    rw [if_neg hlog, Nat.pow_zero, Nat.mul_one]
    rwa [fieldValue_subnormal hlt] at hvalue

/-- Packing a canonical double and unpacking it again keeps its value. -/
theorem HasValue.pack {u : UnpackedFloat} {v : ℕ} (h : HasValue u v) :
    HasValue (stored u) v := by
  cases h with
  | zero s => cases s <;> exact .zero _
  | finite pos canonical small exponent value =>
      subst exponent value
      have h := hasValue_pack pos canonical
      rwa [min_eq_right (canonical.lt_infinity small).le] at h
  | infinite => exact .infinite

end DiagramLint.Double
