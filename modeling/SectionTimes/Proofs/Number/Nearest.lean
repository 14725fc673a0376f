import SectionTimes.Proofs.Number.Difference
import SectionTimes.Proofs.Number.Places

/-!
# The nearest number

A rational has one nearest magnitude: two that were equally near would both be even, and between
two even magnitudes there is another one, nearer to it.  So the number that a decimal becomes
depends on the value of the decimal alone, and it grows with the value.  The magnitudes next to `q`
are at least a part in `2 ^ 53` of it away, so that what is much nearer than that becomes `q`.
-/

namespace SectionTimes.Binary64

variable {p q r : ℕ} {u v w : ℚ} {x y : Binary64}

/-! ## Uniqueness and order -/

theorem IsEvenMagnitude.isMagnitude (h : IsEvenMagnitude q) : IsMagnitude q := by
  obtain ⟨m, e, hm, -, rfl⟩ := h
  exact ⟨m, e, hm, rfl⟩

/-- An odd significand more than the lower one, or less than the upper one, fits in between. -/
theorem IsEvenMagnitude.exists_between (hp : IsEvenMagnitude p) (hq : IsEvenMagnitude q)
    (hlt : p < q) : ∃ r, IsMagnitude r ∧ p < r ∧ r < q := by
  obtain ⟨m, e, hm, ⟨m', rfl⟩, rfl⟩ := hp
  obtain ⟨n, f, hn, ⟨n', rfl⟩, rfl⟩ := hq
  rcases Nat.le_total e f with hef | hef
  · obtain ⟨k, rfl⟩ := Nat.exists_eq_add_of_le hef
    have hn' : (n' + n') * 2 ^ (e + k) = 2 * (n' * 2 ^ k) * 2 ^ e := by ring
    rw [hn'] at hlt ⊢
    have hlt' : m' + m' < 2 * (n' * 2 ^ k) := lt_of_mul_lt_mul_right hlt (Nat.zero_le _)
    refine ⟨(m' + m' + 1) * 2 ^ e, ⟨_, e, by omega, rfl⟩, ?_, ?_⟩
    · exact Nat.mul_lt_mul_of_pos_right (by omega) (by positivity)
    · exact Nat.mul_lt_mul_of_pos_right (by omega) (by positivity)
  · obtain ⟨k, rfl⟩ := Nat.exists_eq_add_of_le hef
    have hm' : (m' + m') * 2 ^ (f + k) = 2 * (m' * 2 ^ k) * 2 ^ f := by ring
    rw [hm'] at hlt ⊢
    have hlt' : 2 * (m' * 2 ^ k) < n' + n' := lt_of_mul_lt_mul_right hlt (Nat.zero_le _)
    refine ⟨(n' + n' - 1) * 2 ^ f, ⟨_, f, by omega, rfl⟩, ?_, ?_⟩
    · exact Nat.mul_lt_mul_of_pos_right (by omega) (by positivity)
    · exact Nat.mul_lt_mul_of_pos_right (by omega) (by positivity)

theorem not_lt_of_isNearest (hp : IsNearest v p) (hq : IsNearest v q) : ¬p < q := by
  intro hlt
  have htie : |v - p| = |v - q| := le_antisymm (hp.le q hq.isMagnitude) (hq.le p hp.isMagnitude)
  obtain ⟨r, hr, hpr, hrq⟩ := (hp.even q hq.isMagnitude hlt.ne' htie.symm).exists_between
    (hq.even p hp.isMagnitude hlt.ne htie) hlt
  have hpr' : (p : ℚ) < r := by exact_mod_cast hpr
  have hrq' : (r : ℚ) < q := by exact_mod_cast hrq
  -- The rational stands half way between the two, and the one in between is nearer to it.
  have hbelow := two_mul_le_add hpr' (hp.le r hr)
  have habove := add_le_two_mul hrq' (hq.le r hr)
  linarith

/-- There is one nearest magnitude. -/
theorem IsNearest.unique (hp : IsNearest v p) (hq : IsNearest v q) : p = q :=
  le_antisymm (not_lt.1 (not_lt_of_isNearest hq hp)) (not_lt.1 (not_lt_of_isNearest hp hq))

theorem IsNearest.mono (hp : IsNearest u p) (hq : IsNearest v q) (h : u ≤ v) : p ≤ q := by
  by_contra hlt
  have hlt' : (q : ℚ) < p := by exact_mod_cast not_le.1 hlt
  have hu := add_le_two_mul hlt' (hp.le q hq.isMagnitude)
  have hv := two_mul_le_add hlt' (hq.le p hp.isMagnitude)
  obtain rfl : u = v := by linarith
  exact hlt (hp.unique hq).le

/-- What lies between two rationals with the same nearest magnitude has it too. -/
theorem IsNearest.of_between (hp : IsNearest v p) (hu : IsNearest u q) (hw : IsNearest w q)
    (huv : u ≤ v) (hvw : v ≤ w) : p = q :=
  le_antisymm (hp.mono hw hvw) (hu.mono hp huv)

theorem IsMagnitude.isNearest_self (h : IsMagnitude q) : IsNearest q q := by
  have hnear := isNearest_roundQuanta_one q
  rwa [roundQuanta_eq_self h] at hnear

/-! ## Decimal numbers -/

theorem isRounded_finite_iff :
    IsRounded v (.finite false q) ↔ IsNearest (v * one) q ∧ q < overflow := by
  constructor
  · rintro ⟨p, hp, heq⟩
    by_cases hover : p < overflow
    · rw [if_pos hover] at heq
      obtain ⟨-, rfl⟩ := finite.inj heq
      exact ⟨hp, hover⟩
    · rw [if_neg hover] at heq
      nomatch heq
  · rintro ⟨hnear, hover⟩
    exact ⟨q, hnear, (if_pos hover).symm⟩

theorem IsRounded.unique (hx : IsRounded v x) (hy : IsRounded v y) : x = y := by
  obtain ⟨p, hp, hx⟩ := hx
  obtain ⟨q, hq, hy⟩ := hy
  rw [hx, hy, hp.unique hq]

/-- The number that a decimal becomes depends on the value of the decimal alone. -/
theorem ofDecimal_congr {d d' : ℕ} {e e' : ℤ} (h : (d * 10 ^ e : ℚ) = d' * 10 ^ e')
    (s : Bool) : ofDecimal s d e = ofDecimal s d' e' := by
  rw [ofDecimal_eq_withMinus, ofDecimal_eq_withMinus s d']
  congr 1
  have hround := isRounded_ofDecimal d e
  rw [h] at hround
  exact hround.unique (isRounded_ofDecimal d' e')

theorem ofDecimal_eq_finite_iff {d : ℕ} {e : ℤ} :
    ofDecimal false d e = .finite false q ↔
      IsNearest (d * 10 ^ e * one) q ∧ q < overflow := by
  rw [← isRounded_finite_iff]
  constructor
  · intro h
    rw [← h]
    exact isRounded_ofDecimal d e
  · intro h
    exact (isRounded_ofDecimal d e).unique h

/-- The numbers that 64 bits can hold. -/
inductive IsRepresentable : Binary64 → Prop
  | nan : IsRepresentable .nan
  | infinite (s : Bool) : IsRepresentable (.infinite s)
  | finite {s : Bool} {q : ℕ} (isMagnitude : IsMagnitude q) (lt : q < overflow) :
      IsRepresentable (.finite s q)

theorem IsRepresentable.withMinus (h : IsRepresentable x) (s : Bool) :
    IsRepresentable (withMinus s x) := by
  cases s with
  | false => exact h
  | true =>
    cases h with
    | nan => exact .nan
    | infinite t => exact .infinite _
    | finite hq hover => exact .finite hq hover

/-- Every decimal becomes a number that 64 bits can hold. -/
theorem isRepresentable_ofDecimal (s : Bool) (d : ℕ) (e : ℤ) :
    IsRepresentable (ofDecimal s d e) := by
  rw [ofDecimal_eq_withMinus]
  refine IsRepresentable.withMinus ?_ s
  obtain ⟨q, hq, hx⟩ := isRounded_ofDecimal d e
  rw [hx]
  by_cases hover : q < overflow
  · rw [if_pos hover]
    exact .finite hq.isMagnitude hover
  · rw [if_neg hover]
    exact .infinite _

/-! ## Distances -/

/-- The significand of a magnitude uses all its bits, or the unit is one. -/
theorem IsMagnitude.exists_normal (h : IsMagnitude q) :
    ∃ m e, m < 2 ^ 53 ∧ (e = 0 ∨ 2 ^ 52 ≤ m) ∧ q = m * 2 ^ e := by
  obtain ⟨m, e, hm, rfl⟩ := h
  induction e generalizing m with
  | zero => exact ⟨m, 0, hm, Or.inl rfl, rfl⟩
  | succ e ih =>
    by_cases hnormal : 2 ^ 52 ≤ m
    · exact ⟨m, e + 1, hm, Or.inr hnormal, rfl⟩
    · obtain ⟨n, f, hn, hnormal', heq⟩ := ih (2 * m) (by omega)
      exact ⟨n, f, hn, hnormal', by rw [← heq]; ring⟩

/-- Two magnitudes are at least a part in `2 ^ 53` of each of them apart. -/
theorem IsMagnitude.le_mul_abs_sub (hq : IsMagnitude q) (hr : IsMagnitude r) (hne : r ≠ q) :
    (q : ℤ) ≤ 2 ^ 53 * |(r : ℤ) - q| := by
  obtain ⟨m, e, hm, hnormal, rfl⟩ := hq.exists_normal
  rcases hr.grid e with ⟨n, rfl⟩ | ⟨he, hlt⟩
  · have hapart : ((2 ^ e : ℕ) : ℤ) ≤ |(n : ℤ) * (2 ^ e : ℕ) - m * (2 ^ e : ℕ)| :=
      le_abs_mul_sub_mul (2 ^ e) (by rintro rfl; exact hne rfl)
    have hm' : (m : ℤ) * (2 ^ e : ℕ) ≤ 2 ^ 53 * (2 ^ e : ℕ) := by
      exact_mod_cast Nat.mul_le_mul_right (2 ^ e) hm.le
    push_cast at hapart hm' ⊢
    linarith
  -- Below the magnitudes that need the unit of `q`, the last one is half a unit away.
  · obtain ⟨f, rfl⟩ : ∃ f, e = f + 1 := Nat.exists_eq_succ_of_ne_zero he
    have hfull : 2 ^ 52 ≤ m := hnormal.resolve_left he
    have hr' : r + 2 ^ f ≤ 2 ^ 53 * 2 ^ f := by
      rcases hr.grid f with ⟨n, rfl⟩ | ⟨-, hsmall⟩
      · have hlt' : n * 2 ^ f < 2 ^ 53 * 2 ^ f := by
          rw [pow_succ' 2 f] at hlt
          linarith
        have hn : n < 2 ^ 53 := lt_of_mul_lt_mul_right hlt' (Nat.zero_le _)
        calc n * 2 ^ f + 2 ^ f = (n + 1) * 2 ^ f := by ring
          _ ≤ 2 ^ 53 * 2 ^ f := Nat.mul_le_mul_right _ hn
      · have hpos : 0 < 2 ^ f := by positivity
        omega
    have hunit : (2 : ℕ) ^ 52 * 2 ^ f ≤ m * 2 ^ f := Nat.mul_le_mul_right _ hfull
    have hq : m * 2 ^ (f + 1) = 2 * (m * 2 ^ f) := by ring
    have hgap : ((m * 2 ^ (f + 1) : ℕ) : ℤ) - r ≤ |(r : ℤ) - (m * 2 ^ (f + 1) : ℕ)| := by
      rw [abs_sub_comm]
      exact le_abs_self _
    have hpos : 2 ^ f ≤ m * 2 ^ f := Nat.le_mul_of_pos_left _ (by omega)
    omega

/-- What is nearer to a magnitude than a part in `2 ^ 54` of it becomes that magnitude. -/
theorem IsMagnitude.isNearest_of_abs_lt (hq : IsMagnitude q) (h : |v - q| * 2 ^ 54 < q) :
    IsNearest v q := by
  have hfar : ∀ r, IsMagnitude r → r ≠ q → |v - q| < |v - r| := by
    intro r hr hne
    have hapart : (q : ℚ) ≤ 2 ^ 53 * |(r : ℚ) - q| := by
      exact_mod_cast hq.le_mul_abs_sub hr hne
    have htriangle : |(r : ℚ) - q| ≤ |v - r| + |v - q| := by
      rw [abs_sub_comm v r]
      exact abs_sub_le _ _ _
    linarith
  refine ⟨hq, fun r hr => ?_, fun r hr hne heq => absurd heq (hfar r hr hne).ne'⟩
  by_cases hne : r = q
  · rw [hne]
  · exact (hfar r hr hne).le

end SectionTimes.Binary64
