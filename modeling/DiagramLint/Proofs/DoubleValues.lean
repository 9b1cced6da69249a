import DiagramLint.Decimal.Rounding
import Mathlib.Tactic.Ring

/-!
# Values of doubles

All doubles but the infinite ones are multiples of the smallest positive one, `2 ^ -1074`, so
that the value of a double from zero on is a natural number of such **units**; infinity counts
as the power of two behind the largest of them.  The doubles lie in binades: within one they
are equally far apart, and the next one is twice as wide.

The result of an operation is a quotient of units, rounded to the nearest double
(`nearestDouble`).  Rounding keeps the order of quotients (`nearestDouble_mono`), for within a
binade it rounds a number of steps to a natural number, and a number of a higher binade is not
rounded to less than the end of a lower one.  It leaves the doubles themselves alone
(`nearestDouble_of_steps`).
-/

namespace DiagramLint

/-! ## Rounding quotients to natural numbers -/

theorem nearestEven_mul_right (num den : ℕ) {c : ℕ} (hc : 0 < c) :
    nearestEven (num * c) (den * c) = nearestEven num den := by
  have htwice : 2 * (num % den * c) = 2 * (num % den) * c := (Nat.mul_assoc ..).symm
  simp only [nearestEven, Nat.mul_div_mul_right _ _ hc, Nat.mul_mod_mul_right, htwice,
    Nat.mul_lt_mul_right hc, Nat.mul_left_inj hc.ne']

theorem nearestEven_of_mul (k : ℕ) {den : ℕ} (hden : 0 < den) :
    nearestEven (k * den) den = k := by
  simp [nearestEven, Nat.mul_div_cancel _ hden, hden]

theorem div_le_nearestEven (num den : ℕ) : num / den ≤ nearestEven num den := by
  unfold nearestEven
  simp only
  split <;> omega

theorem nearestEven_le_succ (num den : ℕ) : nearestEven num den ≤ num / den + 1 := by
  unfold nearestEven
  simp only
  split <;> omega

/-- A larger numerator is not rounded to less: either the quotients without remainder differ,
or the remainders do. -/
theorem nearestEven_le_of_le {num num' : ℕ} (den : ℕ) (h : num ≤ num') :
    nearestEven num den ≤ nearestEven num' den := by
  have hdiv : num / den ≤ num' / den := Nat.div_le_div_right h
  rcases hdiv.lt_or_eq with hlt | heq
  · calc nearestEven num den ≤ num / den + 1 := nearestEven_le_succ num den
      _ ≤ num' / den := hlt
      _ ≤ nearestEven num' den := div_le_nearestEven num' den
  · have hmod : num % den ≤ num' % den := by
      have hnum := Nat.div_add_mod num den
      have hnum' := Nat.div_add_mod num' den
      rw [heq] at hnum
      omega
    unfold nearestEven
    simp only [heq]
    split <;> split <;> omega

/-- **Rounding to natural numbers keeps the order of quotients.** -/
theorem nearestEven_mono {num den num' den' : ℕ} (hden : 0 < den) (hden' : 0 < den')
    (h : num * den' ≤ num' * den) : nearestEven num den ≤ nearestEven num' den' :=
  calc nearestEven num den
      = nearestEven (num * den') (den * den') := (nearestEven_mul_right num den hden').symm
    _ ≤ nearestEven (num' * den) (den * den') := nearestEven_le_of_le _ h
    _ = nearestEven (num' * den) (den' * den) := by rw [Nat.mul_comm den den']
    _ = nearestEven num' den' := nearestEven_mul_right num' den' hden

namespace Double

/-! ## Binades -/

/-- The quotient `num / den` lies in the binade of the doubles that are `2 ^ k` units apart:
they have a mantissa of 53 bits, or a shorter one where the doubles lie densest. -/
structure InBinade (num den k : ℕ) : Prop where
  lt : num < 2 ^ (k + 53) * den
  le : k = 0 ∨ 2 ^ (k + 52) * den ≤ num

theorem InBinade.le_of_le {num den num' den' k k' : ℕ} (h : InBinade num den k)
    (h' : InBinade num' den' k') (hden : 0 < den) (hle : num * den' ≤ num' * den) : k ≤ k' := by
  by_contra hlt
  have hpow : 2 ^ (k' + 53) ≤ 2 ^ (k + 52) := Nat.pow_le_pow_right (by decide) (by omega)
  have hnum : 2 ^ (k + 52) * den ≤ num := h.le.resolve_left (by omega)
  apply Nat.lt_irrefl (num' * den)
  calc num' * den < 2 ^ (k' + 53) * den' * den := Nat.mul_lt_mul_of_pos_right h'.lt hden
    _ ≤ 2 ^ (k + 52) * den' * den := Nat.mul_le_mul_right _ (Nat.mul_le_mul_right _ hpow)
    _ = 2 ^ (k + 52) * den * den' := by ring
    _ ≤ num * den' := Nat.mul_le_mul_right _ hnum
    _ ≤ num' * den := hle

/-- The binade of a quotient. -/
def binade (num den : ℕ) : ℕ := (num / den).log2 - 52

theorem inBinade_binade (num : ℕ) {den : ℕ} (hden : 0 < den) :
    InBinade num den (binade num den) := by
  constructor
  · rw [← Nat.div_lt_iff_lt_mul hden]
    calc num / den < 2 ^ ((num / den).log2 + 1) := Nat.lt_log2_self
      _ ≤ 2 ^ (binade num den + 53) := Nat.pow_le_pow_right (by decide) (by unfold binade; omega)
  · by_cases h : (num / den).log2 ≤ 52
    · left
      unfold binade
      omega
    · right
      have hne : num / den ≠ 0 := by
        intro hzero
        rw [hzero] at h
        exact h (by decide)
      rw [← Nat.le_div_iff_mul_le hden]
      calc 2 ^ (binade num den + 52) = 2 ^ (num / den).log2 := by
            rw [binade, Nat.sub_add_cancel (by omega)]
        _ ≤ num / den := Nat.log2_self_le hne

/-- In its binade a quotient is rounded to at most `2 ^ 53` steps, and past the densest binade
to no less than half of them. -/
theorem InBinade.nearestEven_bounds {num den k : ℕ} (h : InBinade num den k) (hden : 0 < den) :
    nearestEven num (den * 2 ^ k) ≤ 2 ^ 53 ∧
      (k = 0 ∨ 2 ^ 52 ≤ nearestEven num (den * 2 ^ k)) := by
  have hpos : 0 < den * 2 ^ k := Nat.mul_pos hden (Nat.two_pow_pos k)
  constructor
  · have hlt : num / (den * 2 ^ k) < 2 ^ 53 := by
      rw [Nat.div_lt_iff_lt_mul hpos]
      calc num < 2 ^ (k + 53) * den := h.lt
        _ = 2 ^ 53 * (den * 2 ^ k) := by ring
    exact (nearestEven_le_succ _ _).trans hlt
  · refine h.le.imp_right fun hle => le_trans ?_ (div_le_nearestEven _ _)
    rw [Nat.le_div_iff_mul_le hpos]
    calc 2 ^ 52 * (den * 2 ^ k) = 2 ^ (k + 52) * den := by ring
      _ ≤ num := hle

/-! ## Rounding to doubles -/

/-- How many units make one, as a power of two. -/
def unitExponent : ℕ := 1074

/-- The value of one, in units. -/
def one : ℕ := 2 ^ unitExponent

theorem one_pos : 0 < one := Nat.two_pow_pos unitExponent

/-- The binade of the largest doubles. -/
def lastBinade : ℕ := 2045

/-- The value of infinity, in units: the power of two behind the largest double, where another
binade would begin. -/
def infinity : ℕ := 2 ^ 52 * 2 ^ (lastBinade + 1)

theorem infinity_pos : 0 < infinity := Nat.mul_pos (by decide) (Nat.two_pow_pos _)

/-- The value, in units, of the double nearest to `num / den` units. -/
def nearestDouble (num den : ℕ) : ℕ :=
  min infinity (nearestEven num (den * 2 ^ binade num den) * 2 ^ binade num den)

theorem nearestDouble_le_infinity (num den : ℕ) : nearestDouble num den ≤ infinity :=
  min_le_left ..

theorem nearestDouble_zero (den : ℕ) : nearestDouble 0 den = 0 := by
  simp [nearestDouble, nearestEven, Nat.eq_zero_or_pos, eq_comm, or_comm]

/-- A quotient lies in one binade only. -/
theorem nearestDouble_eq {num den k : ℕ} (hden : 0 < den) (h : InBinade num den k) :
    nearestDouble num den = min infinity (nearestEven num (den * 2 ^ k) * 2 ^ k) := by
  have hk := inBinade_binade num hden
  have : binade num den = k :=
    Nat.le_antisymm (hk.le_of_le h hden le_rfl) (h.le_of_le hk hden le_rfl)
  rw [nearestDouble, this]

/-- **Rounding to doubles keeps the order of quotients.** -/
theorem nearestDouble_mono {num den num' den' : ℕ} (hden : 0 < den) (hden' : 0 < den')
    (h : num * den' ≤ num' * den) : nearestDouble num den ≤ nearestDouble num' den' := by
  have hk := inBinade_binade num hden
  have hk' := inBinade_binade num' hden'
  apply min_le_min_left
  rcases (hk.le_of_le hk' hden h).lt_or_eq with hlt | heq
  -- all steps of a binade, taken together, are the first double of the next one
  · have hupper := (hk.nearestEven_bounds hden).1
    have hlower := (hk'.nearestEven_bounds hden').2.resolve_left (by omega)
    calc _ ≤ 2 ^ 53 * 2 ^ binade num den := Nat.mul_le_mul_right _ hupper
      _ = 2 ^ 52 * 2 ^ (binade num den + 1) := by ring
      _ ≤ 2 ^ 52 * 2 ^ binade num' den' :=
          Nat.mul_le_mul_left _ (Nat.pow_le_pow_right (by decide) hlt)
      _ ≤ _ := Nat.mul_le_mul_right _ hlower
  · have hpow := Nat.two_pow_pos (binade num' den')
    rw [heq]
    apply Nat.mul_le_mul_right
    apply nearestEven_mono (Nat.mul_pos hden hpow) (Nat.mul_pos hden' hpow)
    calc num * (den' * 2 ^ binade num' den') = num * den' * 2 ^ binade num' den' := by ring
      _ ≤ num' * den * 2 ^ binade num' den' := Nat.mul_le_mul_right _ h
      _ = num' * (den * 2 ^ binade num' den') := by ring

theorem nearestDouble_le {v v' den : ℕ} (hden : 0 < den) (h : v ≤ v') :
    nearestDouble v den ≤ nearestDouble v' den :=
  nearestDouble_mono hden hden (Nat.mul_le_mul_right den h)

/-- Rounding depends on the quotient alone. -/
theorem nearestDouble_congr {num den : ℕ} (num' den' : ℕ) (hden : 0 < den) (hden' : 0 < den')
    (h : num * den' = num' * den) : nearestDouble num den = nearestDouble num' den' :=
  Nat.le_antisymm (nearestDouble_mono hden hden' h.le) (nearestDouble_mono hden' hden h.ge)

/-! ## Doubles -/

/-- `m` steps of a binade are a double: the mantissa has 53 bits, or fewer in the densest
binade. -/
structure IsMantissa (m k : ℕ) : Prop where
  lt : m < 2 ^ 53
  le : k = 0 ∨ 2 ^ 52 ≤ m

/-- The first double of a binade. -/
theorem isMantissa_first (k : ℕ) : IsMantissa (2 ^ 52) k := ⟨by decide, .inr le_rfl⟩

theorem IsMantissa.inBinade {m k : ℕ} (h : IsMantissa m k) : InBinade (m * 2 ^ k) 1 k where
  lt := calc m * 2 ^ k < 2 ^ 53 * 2 ^ k := Nat.mul_lt_mul_of_pos_right h.lt (Nat.two_pow_pos k)
    _ = 2 ^ (k + 53) * 1 := by ring
  le := h.le.imp_right fun hle => calc
    2 ^ (k + 52) * 1 = 2 ^ 52 * 2 ^ k := by ring
    _ ≤ m * 2 ^ k := Nat.mul_le_mul_right _ hle

/-- **Doubles are ordered by their binades**, and within one by their mantissas. -/
theorem IsMantissa.mul_le_mul_iff {m k m' k' : ℕ} (h : IsMantissa m k) (h' : IsMantissa m' k') :
    m * 2 ^ k ≤ m' * 2 ^ k' ↔ k < k' ∨ k = k' ∧ m ≤ m' := by
  constructor
  · intro hle
    have hbinade := h.inBinade.le_of_le h'.inBinade Nat.one_pos (Nat.mul_le_mul_right 1 hle)
    rcases hbinade.lt_or_eq with hlt | rfl
    · exact .inl hlt
    · exact .inr ⟨rfl, Nat.le_of_mul_le_mul_right hle (Nat.two_pow_pos k)⟩
  · rintro (hlt | ⟨rfl, hle⟩)
    · by_contra hgt
      have := h'.inBinade.le_of_le h.inBinade Nat.one_pos (Nat.mul_le_mul_right 1 (by omega))
      omega
    · exact Nat.mul_le_mul_right _ hle

theorem IsMantissa.infinity_le {m k : ℕ} (h : IsMantissa m k) (hk : lastBinade < k) :
    infinity ≤ m * 2 ^ k :=
  Nat.mul_le_mul (h.le.resolve_left (by omega)) (Nat.pow_le_pow_right (by decide) hk)

theorem IsMantissa.lt_infinity {m k : ℕ} (h : IsMantissa m k) (hk : k ≤ lastBinade) :
    m * 2 ^ k < infinity :=
  calc m * 2 ^ k < 2 ^ 53 * 2 ^ k := Nat.mul_lt_mul_of_pos_right h.lt (Nat.two_pow_pos k)
    _ = 2 ^ 52 * 2 ^ (k + 1) := by ring
    _ ≤ infinity :=
        Nat.mul_le_mul_left _ (Nat.pow_le_pow_right (by decide) (Nat.add_le_add_right hk 1))

theorem one_lt_infinity : one < infinity := by
  have hlt := (isMantissa_first unitExponent).lt_infinity (by decide)
  rw [← one] at hlt
  omega

/-- **The doubles need no rounding.** -/
theorem nearestDouble_of_steps {m k : ℕ} (h : IsMantissa m k) :
    nearestDouble (m * 2 ^ k) 1 = min infinity (m * 2 ^ k) := by
  rw [nearestDouble_eq Nat.one_pos h.inBinade, Nat.one_mul,
    nearestEven_of_mul m (Nat.two_pow_pos k)]

theorem nearestDouble_infinity : nearestDouble infinity 1 = infinity := by
  rw [infinity, nearestDouble_of_steps (isMantissa_first _)]
  exact min_self _

theorem nearestDouble_of_infinity_le {n : ℕ} (h : infinity ≤ n) :
    nearestDouble n 1 = infinity := by
  apply Nat.le_antisymm (nearestDouble_le_infinity n 1)
  calc infinity = nearestDouble infinity 1 := nearestDouble_infinity.symm
    _ ≤ nearestDouble n 1 := nearestDouble_le Nat.one_pos h

/-- No natural number below `2 ^ 64` is rounded to infinity. -/
theorem nearestDouble_mul_one_lt {n : ℕ} (h : n < 2 ^ 64) :
    nearestDouble (n * one) 1 < infinity := by
  have hbound : 2 ^ 64 * one = 2 ^ 52 * 2 ^ (unitExponent + 12) := by
    rw [one]
    ring
  have hlt := (isMantissa_first (unitExponent + 12)).lt_infinity (by decide)
  calc nearestDouble (n * one) 1 ≤ nearestDouble (2 ^ 64 * one) 1 :=
        nearestDouble_le Nat.one_pos (Nat.mul_le_mul_right one h.le)
    _ = 2 ^ 52 * 2 ^ (unitExponent + 12) := by
        rw [hbound, nearestDouble_of_steps (isMantissa_first _), min_eq_right hlt.le]
    _ < infinity := hlt

end Double

end DiagramLint
