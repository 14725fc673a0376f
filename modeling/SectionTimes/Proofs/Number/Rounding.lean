import Mathlib.Algebra.Order.Field.Rat
import Mathlib.Tactic.FieldSimp
import Mathlib.Tactic.Linarith
import Mathlib.Tactic.Positivity
import Mathlib.Tactic.Ring
import SectionTimes.Number.Binary64

/-!
# Rounding

A number that is written in decimal becomes the binary number nearest to it.  A magnitude is a
whole number of quanta with at most 53 significant bits.  `roundQuanta` gives the magnitude
nearest to a quotient, and of two that are equally near the one whose last bit is zero; what
reaches `overflow` is infinite.  The shortcuts that `ofDecimal` takes for numbers out of reach
agree with this.
-/

namespace SectionTimes

/-! ## The nearest natural -/

variable {den : ℕ}

/-- A rounded quotient is off by half of the divisor at most, and by half only if it is even. -/
theorem roundQuotient_cases (num : ℕ) (hden : 0 < den) :
    2 * |(num : ℤ) - roundQuotient num den * den| < den ∨
      2 * |(num : ℤ) - roundQuotient num den * den| = den ∧ Even (roundQuotient num den) := by
  have hdiv : (den : ℤ) * (num / den : ℕ) + (num % den : ℕ) = num := by
    exact_mod_cast Nat.div_add_mod num den
  have hmod := Nat.mod_lt num hden
  have hlow : (num : ℤ) - (num / den : ℕ) * den = (num % den : ℕ) := by linarith
  have hhigh : (num : ℤ) - (num / den + 1 : ℕ) * den = (num % den : ℕ) - den := by
    push_cast at hlow ⊢
    linarith
  unfold roundQuotient
  dsimp only
  by_cases h₁ : 2 * (num % den) < den
  · rw [if_pos h₁, hlow, abs_of_nonneg (by positivity)]
    left
    omega
  rw [if_neg h₁]
  by_cases h₂ : den < 2 * (num % den)
  · rw [if_pos h₂, hhigh, abs_of_nonpos (by omega)]
    left
    omega
  rw [if_neg h₂]
  right
  by_cases h₃ : num / den % 2 = 0
  · rw [if_pos h₃, hlow, abs_of_nonneg (by positivity)]
    exact ⟨by omega, Nat.even_iff.2 h₃⟩
  · rw [if_neg h₃, hhigh, abs_of_nonpos (by omega)]
    exact ⟨by omega, Nat.even_iff.2 (by omega)⟩

/-- Two different multiples are at least the divisor apart. -/
theorem le_abs_mul_sub_mul (den : ℕ) {k n : ℕ} (h : k ≠ n) :
    (den : ℤ) ≤ |(n : ℤ) * den - k * den| := by
  have hone : (1 : ℤ) ≤ |(n : ℤ) - k| := Int.one_le_abs (by omega)
  rw [← sub_mul, abs_mul, Nat.abs_cast]
  nlinarith [Int.natCast_nonneg den]

/-- No multiple is nearer than the rounded quotient, and one that is as near makes it even. -/
theorem roundQuotient_nearest {num k : ℕ} (hden : 0 < den) (hk : k ≠ roundQuotient num den) :
    |(num : ℤ) - roundQuotient num den * den| < |(num : ℤ) - k * den| ∨
      |(num : ℤ) - roundQuotient num den * den| = |(num : ℤ) - k * den| ∧
        Even (roundQuotient num den) := by
  have hapart := le_abs_mul_sub_mul den hk
  have htriangle := abs_sub_le ((roundQuotient num den : ℤ) * den) num (k * den)
  rw [abs_sub_comm _ (num : ℤ)] at htriangle
  rcases roundQuotient_cases num hden with h | ⟨h, heven⟩
  · left
    omega
  · rcases lt_or_eq_of_le
      (show |(num : ℤ) - roundQuotient num den * den| ≤ |(num : ℤ) - k * den| by omega) with h' | h'
    · exact Or.inl h'
    · exact Or.inr ⟨h', heven⟩

namespace Binary64

/-! ## Magnitudes -/

/-- A magnitude that a number can have: at most 53 significant bits. -/
def IsMagnitude (q : ℕ) : Prop := ∃ m e, m < 2 ^ 53 ∧ q = m * 2 ^ e

/-- The last of the 53 significant bits of a magnitude is zero. -/
def IsEvenMagnitude (q : ℕ) : Prop := ∃ m e, m < 2 ^ 53 ∧ Even m ∧ q = m * 2 ^ e

/-- `q` is the magnitude nearest to `x` quanta; of two that are equally near, the even one. -/
structure IsNearest (x : ℚ) (q : ℕ) : Prop where
  isMagnitude : IsMagnitude q
  le : ∀ r, IsMagnitude r → |x - q| ≤ |x - r|
  even : ∀ r, IsMagnitude r → r ≠ q → |x - r| = |x - q| → IsEvenMagnitude q

/-- `x` is the number nearest to the rational `v`, which is not negative. -/
def IsRounded (v : ℚ) (x : Binary64) : Prop :=
  ∃ q, IsNearest (v * one) q ∧ x = if q < overflow then .finite false q else .infinite false

theorem lt_two_pow_excessBits (n : ℕ) : n < 2 ^ (53 + excessBits n) := by
  have hlog : n < 2 ^ (n.log2 + 1) := Nat.lt_log2_self
  refine hlog.trans_le (Nat.pow_le_pow_right (by decide) ?_)
  unfold excessBits
  omega

theorem two_pow_excessBits_le {n : ℕ} (h : excessBits n ≠ 0) : 2 ^ (52 + excessBits n) ≤ n := by
  unfold excessBits at h ⊢
  have hn : n ≠ 0 := by
    rintro rfl
    exact h (by decide)
  rw [show 52 + (n.log2 + 1 - 53) = n.log2 by omega]
  exact Nat.log2_self_le hn

/-- A magnitude is on the grid of a unit, or below the magnitudes that need the unit. -/
theorem IsMagnitude.grid {r : ℕ} (h : IsMagnitude r) (k : ℕ) :
    (∃ n, r = n * 2 ^ k) ∨ k ≠ 0 ∧ r < 2 ^ 52 * 2 ^ k := by
  obtain ⟨m, e, hm, rfl⟩ := h
  rcases Nat.lt_or_ge e k with he | he
  · right
    refine ⟨by omega, ?_⟩
    have hup : 2 ^ (e + 1) ≤ 2 ^ k := Nat.pow_le_pow_right (by decide) he
    calc m * 2 ^ e < 2 ^ 53 * 2 ^ e := Nat.mul_lt_mul_of_pos_right hm (by positivity)
      _ = 2 ^ 52 * 2 ^ (e + 1) := by ring
      _ ≤ 2 ^ 52 * 2 ^ k := Nat.mul_le_mul_left _ hup
  · left
    exact ⟨m * 2 ^ (e - k), by rw [mul_assoc, ← pow_add, Nat.sub_add_cancel he]⟩

/-- The quotient by the unit keeps 53 bits, and needs them if the unit is not one. -/
theorem quotient_bounds (num : ℕ) (hden : 0 < den) :
    num < 2 ^ 53 * (den * 2 ^ excessBits (num / den)) ∧
      (excessBits (num / den) ≠ 0 → 2 ^ 52 * (den * 2 ^ excessBits (num / den)) ≤ num) := by
  constructor
  · have hlt := (Nat.div_lt_iff_lt_mul hden).1 (lt_two_pow_excessBits (num / den))
    calc num < 2 ^ (53 + excessBits (num / den)) * den := hlt
      _ = 2 ^ 53 * (den * 2 ^ excessBits (num / den)) := by ring
  · intro h
    have hle := (Nat.le_div_iff_mul_le hden).1 (two_pow_excessBits_le h)
    calc 2 ^ 52 * (den * 2 ^ excessBits (num / den)) =
          2 ^ (52 + excessBits (num / den)) * den := by ring
      _ ≤ num := hle

/-! ## The nearest magnitude -/

theorem roundQuotient_le {num b : ℕ} (hden : 0 < den) (h : num < b * den) :
    roundQuotient num den ≤ b := by
  by_contra hlt
  have hnear := roundQuotient_cases num hden
  have hmul : (b + 1) * den ≤ roundQuotient num den * den := Nat.mul_le_mul_right den (by omega)
  have habs : (roundQuotient num den : ℤ) * den - num ≤
      |(num : ℤ) - roundQuotient num den * den| := by
    rw [abs_sub_comm]
    exact le_abs_self _
  have hmul' : ((b : ℤ) + 1) * den ≤ roundQuotient num den * den := by exact_mod_cast hmul
  have h' : (num : ℤ) < b * den := by exact_mod_cast h
  rcases hnear with hnear | ⟨hnear, -⟩ <;> linarith

/-- A significand of 54 bits that is a power of two can be written with 53. -/
theorem exists_significand {n : ℕ} (h : n ≤ 2 ^ 53) (k : ℕ) :
    ∃ m e, m < 2 ^ 53 ∧ (Even n → Even m) ∧ n * 2 ^ k = m * 2 ^ e := by
  rcases Nat.lt_or_eq_of_le h with h | rfl
  · exact ⟨n, k, h, id, rfl⟩
  · exact ⟨2, 52 + k, by decide, fun _ => even_two, by ring⟩

/-- No other magnitude is nearer to a quotient than the rounded one, and one that is as near
makes that one even. -/
theorem roundQuanta_nearest {num r : ℕ} (hden : 0 < den) (hr : IsMagnitude r)
    (hne : r ≠ roundQuanta num den) :
    |(num : ℤ) - roundQuanta num den * den| < |(num : ℤ) - r * den| ∨
      |(num : ℤ) - roundQuanta num den * den| = |(num : ℤ) - r * den| ∧
        IsEvenMagnitude (roundQuanta num den) := by
  obtain ⟨hlt, hle⟩ := quotient_bounds num hden
  have hround : roundQuanta num den =
      roundQuotient num (den * 2 ^ excessBits (num / den)) * 2 ^ excessBits (num / den) := rfl
  generalize excessBits (num / den) = k at hlt hle hround
  have hunit : 0 < den * 2 ^ k := by positivity
  have hn : roundQuotient num (den * 2 ^ k) ≤ 2 ^ 53 := roundQuotient_le hunit hlt
  have heven : Even (roundQuotient num (den * 2 ^ k)) → IsEvenMagnitude (roundQuanta num den) := by
    intro h
    obtain ⟨m, e, hm, hm', he⟩ := exists_significand hn k
    exact ⟨m, e, hm, hm' h, hround.trans he⟩
  -- Every multiple of the unit is a multiple of the unit times the divisor, scaled.
  have hscale : ∀ n : ℕ, ((n * 2 ^ k : ℕ) : ℤ) * den = n * (den * 2 ^ k : ℕ) := by
    intro n
    push_cast
    ring
  have hq : (roundQuanta num den : ℤ) * den =
      roundQuotient num (den * 2 ^ k) * (den * 2 ^ k : ℕ) := by
    rw [hround]
    exact hscale _
  rw [hq]
  rcases hr.grid k with ⟨n, rfl⟩ | ⟨hk, hsmall⟩
  · have hn' : n ≠ roundQuotient num (den * 2 ^ k) := by
      rintro rfl
      exact hne hround.symm
    rw [hscale]
    exact (roundQuotient_nearest hunit hn').imp_right (fun h => ⟨h.1, heven h.2⟩)
  -- A magnitude off the grid is below `2 ^ 52` units, and the quotient is not: that many units
  -- are nearer to it, and the rounded magnitude is at least as near as they are.
  · left
    have hbound : (r : ℤ) * den < 2 ^ 52 * (den * 2 ^ k : ℕ) := by
      have : r * den < 2 ^ 52 * 2 ^ k * den := Nat.mul_lt_mul_of_pos_right hsmall hden
      push_cast
      push_cast [← @Nat.cast_lt ℤ] at this
      linarith
    have hbelow : (2 ^ 52 : ℤ) * (den * 2 ^ k : ℕ) ≤ num := by exact_mod_cast hle hk
    have hnear : |(num : ℤ) - roundQuotient num (den * 2 ^ k) * (den * 2 ^ k : ℕ)| ≤
        |(num : ℤ) - (2 ^ 52 : ℕ) * (den * 2 ^ k : ℕ)| := by
      by_cases h : 2 ^ 52 = roundQuotient num (den * 2 ^ k)
      · rw [← h]
      · rcases roundQuotient_nearest hunit h with h | h
        · exact h.le
        · exact h.1.le
    calc |(num : ℤ) - roundQuotient num (den * 2 ^ k) * (den * 2 ^ k : ℕ)|
        ≤ |(num : ℤ) - (2 ^ 52 : ℕ) * (den * 2 ^ k : ℕ)| := hnear
      _ = num - 2 ^ 52 * (den * 2 ^ k : ℕ) := by
          push_cast at hbelow ⊢
          exact abs_of_nonneg (by linarith)
      _ < num - r * den := by linarith
      _ ≤ |(num : ℤ) - r * den| := le_abs_self _

theorem isMagnitude_roundQuanta (num : ℕ) (hden : 0 < den) : IsMagnitude (roundQuanta num den) := by
  have hunit : 0 < den * 2 ^ excessBits (num / den) := by positivity
  have hn := roundQuotient_le hunit (quotient_bounds num hden).1
  obtain ⟨m, e, hm, -, he⟩ := exists_significand hn (excessBits (num / den))
  exact ⟨m, e, hm, he⟩

theorem abs_div_sub (num r : ℕ) (hden : 0 < den) :
    |(num : ℚ) / den - r| = (|(num : ℤ) - r * den| : ℤ) / den := by
  have hpos : (0 : ℚ) < den := by exact_mod_cast hden
  push_cast
  rw [← abs_of_pos hpos, ← abs_div, abs_of_pos hpos]
  congr 1
  field_simp

/-- `roundQuanta` gives the nearest magnitude. -/
theorem isNearest_roundQuanta (num : ℕ) (hden : 0 < den) :
    IsNearest ((num : ℚ) / den) (roundQuanta num den) where
  isMagnitude := isMagnitude_roundQuanta num hden
  le r hr := by
    have hpos : (0 : ℚ) < den := by exact_mod_cast hden
    by_cases hne : r = roundQuanta num den
    · rw [hne]
    rw [abs_div_sub _ _ hden, abs_div_sub _ _ hden]
    refine div_le_div_of_nonneg_right ?_ hpos.le
    rcases roundQuanta_nearest hden hr hne with h | h
    · exact_mod_cast h.le
    · exact_mod_cast h.1.le
  even r hr hne heq := by
    have hpos : (0 : ℚ) < den := by exact_mod_cast hden
    rw [abs_div_sub _ _ hden, abs_div_sub _ _ hden, div_left_inj' hpos.ne'] at heq
    have heq' : |(num : ℤ) - r * den| = |(num : ℤ) - roundQuanta num den * den| := by
      exact_mod_cast heq
    rcases roundQuanta_nearest hden hr hne with h | h
    · omega
    · exact h.2

/-! ## Numbers out of reach -/

theorem isMagnitude_two_pow (e : ℕ) : IsMagnitude (2 ^ e) := ⟨1, e, by decide, (one_mul _).symm⟩

/-- Less than half of a quantum is nearest to none. -/
theorem isNearest_zero {x : ℚ} (hx : 0 ≤ x) (hhalf : x < 1 / 2) : IsNearest x 0 := by
  have hfar : ∀ r : ℕ, r ≠ 0 → |x - (0 : ℕ)| < |x - r| := by
    intro r hr
    have hone : (1 : ℚ) ≤ r := by exact_mod_cast Nat.one_le_iff_ne_zero.2 hr
    rw [Nat.cast_zero, sub_zero, abs_of_nonneg hx, abs_of_nonpos (by linarith)]
    linarith
  refine ⟨⟨0, 0, by decide, rfl⟩, fun r _ => ?_, fun r _ hr heq => ?_⟩
  · by_cases hr : r = 0
    · rw [hr]
    · exact (hfar r hr).le
  · exact absurd heq (hfar r hr).ne'

/-- What is nearest to a number is not below a magnitude that the number reaches. -/
theorem IsNearest.le_of_le {x : ℚ} {q r : ℕ} (h : IsNearest x q) (hr : IsMagnitude r)
    (hx : (r : ℚ) ≤ x) : r ≤ q := by
  by_contra hlt
  have hlt' : (q : ℚ) < r := by exact_mod_cast not_le.1 hlt
  have hle := h.le r hr
  rw [abs_of_nonneg (by linarith), abs_of_nonneg (by linarith)] at hle
  linarith

/-! ## Decimal numbers -/

theorem digitCount_le_iff {n k : ℕ} (hk : 0 < k) : digitCount n ≤ k ↔ n < 10 ^ k :=
  Nat.length_toDigits_le_iff (by decide) hk

theorem lt_ten_pow_digitCount (n : ℕ) : n < 10 ^ digitCount n :=
  (digitCount_le_iff Nat.length_toDigits_pos).1 le_rfl

theorem ten_pow_digitCount_le {n : ℕ} (hn : n ≠ 0) : 10 ^ (digitCount n - 1) ≤ n := by
  by_cases hone : digitCount n = 1
  · rw [hone]
    exact Nat.one_le_iff_ne_zero.2 hn
  · have hpos : 0 < digitCount n := Nat.length_toDigits_pos
    by_contra hlt
    have := (digitCount_le_iff (by omega)).2 (not_le.1 hlt)
    omega

theorem two_pow_le_ten_zpow {i : ℤ} {k : ℕ} (h : (k : ℤ) ≤ i) : (2 : ℚ) ^ (3 * k) ≤ 10 ^ i := by
  calc (2 : ℚ) ^ (3 * k) = 8 ^ k := by rw [pow_mul]; norm_num
    _ ≤ 10 ^ k := by gcongr; norm_num
    _ = (10 : ℚ) ^ (k : ℤ) := (zpow_natCast _ _).symm
    _ ≤ 10 ^ i := zpow_le_zpow_right₀ (by norm_num) h

theorem mul_two_pow_lt_half {v : ℚ} {k n : ℕ} (hv : 0 ≤ v) (h : v * 2 ^ n < 1) (hk : k < n) :
    v * 2 ^ k < 1 / 2 := by
  have hpow : (2 : ℚ) ^ (k + 1) ≤ 2 ^ n := pow_le_pow_right₀ (by norm_num) hk
  have hle : v * 2 ^ (k + 1) ≤ v * 2 ^ n := mul_le_mul_of_nonneg_left hpow hv
  rw [pow_succ] at hle
  linarith

theorem two_pow_le_mul {v : ℚ} {k m n : ℕ} (h : 2 ^ n ≤ v) (hm : m ≤ n + k) :
    (2 : ℚ) ^ m ≤ v * 2 ^ k := by
  calc (2 : ℚ) ^ m ≤ 2 ^ (n + k) := pow_le_pow_right₀ (by norm_num) hm
    _ = 2 ^ n * 2 ^ k := pow_add _ _ _
    _ ≤ v * 2 ^ k := by gcongr

theorem one_eq : one = 2 ^ 1074 := by
  unfold one
  generalize 1074 = n
  rfl

theorem overflow_eq : overflow = 2 ^ 2098 := by
  unfold overflow
  generalize 2098 = n
  rfl

theorem overflow_pos : 0 < overflow := by
  unfold overflow
  generalize 2098 = n
  exact Nat.two_pow_pos n

theorem cast_one_eq : (one : ℚ) = 2 ^ 1074 := by rw [one_eq, Nat.cast_pow, Nat.cast_ofNat]

/-- A decimal number is a quotient of naturals, in quanta, and within reach it is rounded as
such. -/
theorem exists_quotient (digits : ℕ) (exponent : ℤ) :
    ∃ num den : ℕ, 0 < den ∧ (digits * 10 ^ exponent * one : ℚ) = num / den ∧
      ofDecimal false digits exponent =
        if digits = 0 ∨ (digitCount digits : ℤ) + exponent < -400 then .finite false 0
        else if 400 < (digitCount digits : ℤ) + exponent then .infinite false
        else ofQuanta false num den := by
  unfold ofDecimal
  simp only [Bool.or_eq_true, decide_eq_true_eq]
  by_cases h : 0 ≤ exponent
  · refine ⟨digits * 10 ^ exponent.toNat * one, 1, one_pos, ?_, ?_⟩
    · rw [Nat.cast_mul, Nat.cast_mul, Nat.cast_pow, Nat.cast_one, div_one, ← zpow_natCast,
        Int.toNat_of_nonneg h, Nat.cast_ofNat]
    · simp only [if_pos h]
      rfl
  · refine ⟨digits * one, 10 ^ (-exponent).toNat, by positivity, ?_, ?_⟩
    · have hexp : exponent = -((-exponent).toNat : ℤ) := by omega
      rw [Nat.cast_mul, Nat.cast_pow, Nat.cast_ofNat]
      conv_lhs => rw [hexp]
      rw [zpow_neg, zpow_natCast, div_eq_mul_inv, mul_right_comm]
    · simp only [if_neg h]
      rfl

/-- Digits and a power of ten are bounded by the number of digits. -/
theorem decimal_lt (digits : ℕ) (exponent : ℤ) :
    (digits * 10 ^ exponent : ℚ) < 10 ^ ((digitCount digits : ℤ) + exponent) := by
  have hdigits : (digits : ℚ) < 10 ^ digitCount digits := by
    exact_mod_cast lt_ten_pow_digitCount digits
  rw [zpow_add₀ (by norm_num), zpow_natCast]
  exact mul_lt_mul_of_pos_right hdigits (zpow_pos (by norm_num) _)

theorem le_decimal {digits : ℕ} (h : digits ≠ 0) (exponent : ℤ) :
    (10 : ℚ) ^ ((digitCount digits : ℤ) + exponent - 1) ≤ digits * 10 ^ exponent := by
  have hpos : 0 < digitCount digits := Nat.length_toDigits_pos
  have hdigits : (10 : ℚ) ^ (digitCount digits - 1) ≤ digits := by
    exact_mod_cast ten_pow_digitCount_le h
  rw [show (digitCount digits : ℤ) + exponent - 1 = (digitCount digits - 1 : ℕ) + exponent by omega,
    zpow_add₀ (by norm_num), zpow_natCast]
  exact mul_le_mul_of_nonneg_right hdigits (zpow_pos (by norm_num) _).le

/-- A decimal number below 10⁻⁴⁰⁰ is less than half of a quantum. -/
theorem decimal_lt_half {digits : ℕ} {exponent : ℤ}
    (h : (digitCount digits : ℤ) + exponent < -400) :
    (digits * 10 ^ exponent * one : ℚ) < 1 / 2 := by
  have hpow : (0 : ℚ) ≤ 10 ^ exponent := (zpow_pos (by norm_num) _).le
  have hnonneg : (0 : ℚ) ≤ digits * 10 ^ exponent := mul_nonneg (Nat.cast_nonneg _) hpow
  have hten : (2 : ℚ) ^ (3 * 400) ≤ 10 ^ (-((digitCount digits : ℤ) + exponent)) :=
    two_pow_le_ten_zpow (by omega)
  have hinv : (0 : ℚ) < 10 ^ (-((digitCount digits : ℤ) + exponent)) :=
    zpow_pos (by norm_num) _
  rw [cast_one_eq]
  refine mul_two_pow_lt_half (n := 3 * 400) hnonneg ?_ (by decide)
  calc (digits * 10 ^ exponent * 2 ^ (3 * 400) : ℚ)
      ≤ digits * 10 ^ exponent * 10 ^ (-((digitCount digits : ℤ) + exponent)) :=
        mul_le_mul_of_nonneg_left hten hnonneg
    _ < 10 ^ ((digitCount digits : ℤ) + exponent) *
          10 ^ (-((digitCount digits : ℤ) + exponent)) :=
        mul_lt_mul_of_pos_right (decimal_lt digits exponent) hinv
    _ = 1 := by rw [← zpow_add₀ (by norm_num), add_neg_cancel, zpow_zero]

/-- A decimal number from 10⁴⁰⁰ on reaches the magnitude at which numbers become infinite. -/
theorem overflow_le_decimal {digits : ℕ} {exponent : ℤ} (hdigits : digits ≠ 0)
    (h : 400 < (digitCount digits : ℤ) + exponent) :
    (overflow : ℚ) ≤ digits * 10 ^ exponent * one := by
  have hten : (2 : ℚ) ^ (3 * 400) ≤ digits * 10 ^ exponent :=
    (two_pow_le_ten_zpow (by omega)).trans (le_decimal hdigits exponent)
  rw [cast_one_eq, overflow_eq, Nat.cast_pow, Nat.cast_ofNat]
  exact two_pow_le_mul hten (by decide)

/-- A decimal number becomes the binary number nearest to it. -/
theorem isRounded_ofDecimal (digits : ℕ) (exponent : ℤ) :
    IsRounded (digits * 10 ^ exponent) (ofDecimal false digits exponent) := by
  obtain ⟨num, den, hden, hvalue, hcases⟩ := exists_quotient digits exponent
  have hnear : IsNearest (digits * 10 ^ exponent * one) (roundQuanta num den) := by
    rw [hvalue]
    exact isNearest_roundQuanta num hden
  have hnonneg : (0 : ℚ) ≤ digits * 10 ^ exponent * one := by
    rw [hvalue]
    positivity
  rw [hcases]
  by_cases htiny : digits = 0 ∨ (digitCount digits : ℤ) + exponent < -400
  · have hhalf : (digits * 10 ^ exponent * one : ℚ) < 1 / 2 := by
      rcases htiny with h | h
      · rw [h, Nat.cast_zero, zero_mul, zero_mul]
        norm_num
      · exact decimal_lt_half h
    exact ⟨0, isNearest_zero hnonneg hhalf, by rw [if_pos htiny, if_pos overflow_pos]⟩
  rw [if_neg htiny]
  by_cases hhuge : 400 < (digitCount digits : ℤ) + exponent
  · have hmagnitude : IsMagnitude overflow := overflow_eq ▸ isMagnitude_two_pow 2098
    have hq := hnear.le_of_le hmagnitude
      (overflow_le_decimal (fun h => htiny (Or.inl h)) hhuge)
    exact ⟨_, hnear, by rw [if_pos hhuge, if_neg (not_lt.2 hq)]⟩
  · exact ⟨_, hnear, by rw [if_neg hhuge]; rfl⟩

end Binary64

end SectionTimes
