import SectionTimes.Proofs.Number.Rounding

/-!
# Rounded differences

The difference of two numbers is rounded, so that it may reach a bound which the exact difference
misses by little.  Rounding keeps the order, and nothing is lost where the exact difference is
itself a number.
-/

namespace SectionTimes.Binary64

variable {x y z : Binary64} {a b : ℕ}

/-! ## Rounding naturals -/

theorem isNearest_roundQuanta_one (a : ℕ) : IsNearest a (roundQuanta a 1) := by
  have h := isNearest_roundQuanta a one_pos
  rwa [Nat.cast_one, div_one] at h

/-- A magnitude is not changed by rounding. -/
theorem roundQuanta_eq_self (h : IsMagnitude a) : roundQuanta a 1 = a := by
  have hle := (isNearest_roundQuanta_one a).le a h
  rw [sub_self, abs_zero, abs_nonpos_iff, sub_eq_zero] at hle
  exact_mod_cast hle.symm

/-- What is nearer to the greater of two numbers stands half way or above. -/
theorem add_le_two_mul {v p q : ℚ} (hlt : q < p) (h : |v - p| ≤ |v - q|) : p + q ≤ 2 * v := by
  have hsq := sq_le_sq.2 h
  by_contra hgt
  have hpos := mul_pos (sub_pos.2 hlt) (sub_pos.2 (not_le.1 hgt))
  linarith

/-- What is nearer to the less of two numbers stands half way or below. -/
theorem two_mul_le_add {v p q : ℚ} (hlt : q < p) (h : |v - q| ≤ |v - p|) : 2 * v ≤ p + q := by
  have hsq := sq_le_sq.2 h
  by_contra hgt
  have hpos := mul_pos (sub_pos.2 hlt) (sub_pos.2 (not_le.1 hgt))
  linarith

/-- Rounding keeps the order: two numbers that changed places would both stand half way. -/
theorem roundQuanta_mono (h : a ≤ b) : roundQuanta a 1 ≤ roundQuanta b 1 := by
  by_contra hlt
  have hround : (roundQuanta b 1 : ℚ) < roundQuanta a 1 := by exact_mod_cast not_le.1 hlt
  have ha := add_le_two_mul hround
    ((isNearest_roundQuanta_one a).le _ (isNearest_roundQuanta_one b).isMagnitude)
  have hb := two_mul_le_add hround
    ((isNearest_roundQuanta_one b).le _ (isNearest_roundQuanta_one a).isMagnitude)
  have hle : (b : ℚ) ≤ a := by linarith
  have heq : a = b := le_antisymm h (by exact_mod_cast hle)
  exact hlt (heq ▸ le_rfl)

/-! ## Finite numbers -/

/-- The value of a finite number in quanta; for other numbers it means nothing. -/
def quanta : Binary64 → ℤ
  | .finite s q => signed s q
  | _ => 0

/-- A number that is neither infinite nor undefined. -/
def IsFinite (x : Binary64) : Prop := ∃ s q, x = .finite s q

instance : DecidablePred IsFinite
  | .finite s q => .isTrue ⟨s, q, rfl⟩
  | .infinite _ => .isFalse fun ⟨_, _, h⟩ => nomatch h
  | .nan => .isFalse fun ⟨_, _, h⟩ => nomatch h

/-- A finite number with at most 53 significant bits. -/
def IsNumber (x : Binary64) : Prop := ∃ s q, IsMagnitude q ∧ x = .finite s q

theorem less_iff (hx : x.IsFinite) (hy : y.IsFinite) : x.less y = true ↔ x.quanta < y.quanta := by
  obtain ⟨s, a, rfl⟩ := hx
  obtain ⟨t, b, rfl⟩ := hy
  exact decide_eq_true_iff

theorem natAbs_signed (s : Bool) (q : ℕ) : (signed s q).natAbs = q := by
  cases s with
  | false => rfl
  | true => exact Int.natAbs_neg q

/-! ## Differences -/

theorem ofQuanta_false_less_iff {q : ℕ} (hq : q < overflow) :
    (ofQuanta false a 1).less (.finite false q) = true ↔ roundQuanta a 1 < q := by
  unfold ofQuanta
  dsimp only
  by_cases hover : roundQuanta a 1 < overflow
  · rw [if_pos hover]
    exact decide_eq_true_iff.trans Nat.cast_lt
  · rw [if_neg hover]
    exact ⟨fun h => absurd h Bool.false_ne_true, fun h => absurd (h.trans hq) hover⟩

theorem ofQuanta_true_less {q : ℕ} (hq : 0 < q) (a : ℕ) :
    (ofQuanta true a 1).less (.finite false q) = true := by
  unfold ofQuanta
  dsimp only
  by_cases hover : roundQuanta a 1 < overflow
  · rw [if_pos hover]
    refine decide_eq_true ?_
    change -(roundQuanta a 1 : ℤ) < (q : ℤ)
    omega
  · rw [if_neg hover]
    rfl

theorem finite_sub_finite (s t : Bool) (a b : ℕ) :
    Binary64.finite s a - .finite t b =
      if signed s a - signed t b = 0 then .finite (s && !t) 0
      else ofQuanta (signed s a - signed t b < 0) (signed s a - signed t b).natAbs 1 := by
  have hneg : signed (!t) b = -signed t b := by
    cases t with
    | false => rfl
    | true => exact (neg_neg _).symm
  change (if signed s a + signed (!t) b = 0 then Binary64.finite (s && !t) 0
    else ofQuanta (signed s a + signed (!t) b < 0) (signed s a + signed (!t) b).natAbs 1) = _
  rw [hneg, ← sub_eq_add_neg]

/-- A difference is below a positive bound just when it is not positive itself or is rounded to
something below the bound. -/
theorem sub_less_iff (hx : x.IsFinite) (hy : y.IsFinite) {q : ℕ} (hpos : 0 < q)
    (hover : q < overflow) :
    (x - y).less (.finite false q) = true ↔
      x.quanta ≤ y.quanta ∨ roundQuanta (x.quanta - y.quanta).natAbs 1 < q := by
  obtain ⟨s, a, rfl⟩ := hx
  obtain ⟨t, b, rfl⟩ := hy
  change _ ↔ signed s a ≤ signed t b ∨ roundQuanta (signed s a - signed t b).natAbs 1 < q
  rw [finite_sub_finite]
  rcases lt_trichotomy (signed s a) (signed t b) with hlt | heq | hgt
  · rw [if_neg (by omega), decide_eq_true (by omega)]
    exact iff_of_true (ofQuanta_true_less hpos _) (Or.inl hlt.le)
  · rw [if_pos (by omega)]
    refine iff_of_true (decide_eq_true ?_) (Or.inl heq.le)
    rw [show signed (s && !t) 0 = 0 by cases s && !t <;> rfl]
    exact Nat.cast_pos.2 hpos
  · rw [if_neg (by omega), decide_eq_false (by omega), ofQuanta_false_less_iff hover]
    exact (or_iff_right (by omega)).symm

theorem sub_not_less_iff (hx : x.IsFinite) (hy : y.IsFinite) {q : ℕ} (hpos : 0 < q)
    (hover : q < overflow) :
    (x - y).less (.finite false q) = false ↔
      y.quanta < x.quanta ∧ q ≤ roundQuanta (x.quanta - y.quanta).natAbs 1 := by
  rw [Bool.eq_false_iff, Ne, sub_less_iff hx hy hpos hover, not_or, not_le, not_lt]

/-- A difference is not below a bound if a less one is not. -/
theorem sub_not_less_of_le (hx : x.IsFinite) (hy : y.IsFinite) (hz : z.IsFinite) {q : ℕ}
    (hpos : 0 < q) (hover : q < overflow) (hle : z.quanta ≤ y.quanta)
    (h : (x - y).less (.finite false q) = false) : (x - z).less (.finite false q) = false := by
  obtain ⟨hlt, hq⟩ := (sub_not_less_iff hx hy hpos hover).1 h
  refine (sub_not_less_iff hx hz hpos hover).2 ⟨by omega, hq.trans (roundQuanta_mono ?_)⟩
  omega

/-- A number that reaches a bound differs from zero by the bound. -/
theorem sub_zero_not_less (hx : x.IsFinite) {q : ℕ} (hpos : 0 < q) (hover : q < overflow)
    (hq : IsMagnitude q) (h : x.less (.finite false q) = false) :
    (x - zero).less (.finite false q) = false := by
  have hle : (q : ℤ) ≤ x.quanta := by
    rw [Bool.eq_false_iff, Ne, less_iff hx ⟨_, _, rfl⟩] at h
    exact not_lt.1 h
  refine (sub_not_less_iff (y := zero) hx ⟨_, _, rfl⟩ hpos hover).2 ?_
  change 0 < x.quanta ∧ q ≤ roundQuanta (x.quanta - 0).natAbs 1
  refine ⟨by omega, (roundQuanta_eq_self hq).ge.trans (roundQuanta_mono ?_)⟩
  omega

theorem IsNumber.isFinite (h : x.IsNumber) : x.IsFinite := by
  obtain ⟨s, q, -, rfl⟩ := h
  exact ⟨s, q, rfl⟩

/-- A number whose bits do not suffice for quanta below `2 ^ k` is a multiple of that. -/
theorem IsNumber.two_pow_dvd_quanta (h : x.IsNumber) {k : ℕ} (hfar : 2 ^ (52 + k) ≤ |x.quanta|) :
    (2 ^ k : ℤ) ∣ x.quanta := by
  obtain ⟨s, q, hq, rfl⟩ := h
  change (2 ^ (52 + k) : ℤ) ≤ |signed s q| at hfar
  change (2 ^ k : ℤ) ∣ signed s q
  rw [Int.abs_eq_natAbs, natAbs_signed] at hfar
  rw [← Int.dvd_natAbs, natAbs_signed]
  rcases hq.grid k with ⟨n, rfl⟩ | ⟨-, hlt⟩
  · exact ⟨n, by push_cast; ring⟩
  · rw [← pow_add] at hlt
    exact absurd (by exact_mod_cast hfar) (not_le.2 hlt)

/-- The difference of two numbers that are half of a bound or more away from zero is exact up to
the bound: it is not below the bound only if it reaches it. -/
theorem add_le_of_sub_not_less (hx : x.IsNumber) (hy : y.IsNumber) {k : ℕ}
    (hover : 2 ^ (53 + k) < overflow) (hfarx : 2 ^ (52 + k) ≤ |x.quanta|)
    (hfary : 2 ^ (52 + k) ≤ |y.quanta|)
    (h : (x - y).less (.finite false (2 ^ (53 + k))) = false) :
    y.quanta + 2 ^ (53 + k) ≤ x.quanta := by
  obtain ⟨hless, hround⟩ := (sub_not_less_iff hx.isFinite hy.isFinite (by positivity) hover).1 h
  obtain ⟨n, hn⟩ := dvd_sub (hx.two_pow_dvd_quanta hfarx) (hy.two_pow_dvd_quanta hfary)
  by_contra hlt
  have hpow : (2 : ℤ) ^ (53 + k) = 2 ^ k * 2 ^ 53 := by ring
  have hk : (0 : ℤ) < 2 ^ k := by positivity
  have hpos : 0 < n := pos_of_mul_pos_right (by omega : 0 < 2 ^ k * n) hk.le
  have hn53 : n < 2 ^ 53 := lt_of_mul_lt_mul_left (by omega : 2 ^ k * n < 2 ^ k * 2 ^ 53) hk.le
  have hmagnitude : IsMagnitude (x.quanta - y.quanta).natAbs :=
    ⟨n.natAbs, k, by omega, by rw [hn, Int.natAbs_mul, mul_comm, Int.natAbs_pow]; rfl⟩
  rw [roundQuanta_eq_self hmagnitude] at hround
  zify at hround
  rw [abs_of_pos (by omega)] at hround
  omega

end SectionTimes.Binary64
