import Mathlib.Data.Nat.Prime.Basic
import SectionTimes.Number.Decimal
import SectionTimes.Proofs.Number.Nearest

/-!
# Shortest decimals

The decimal that is written for a number becomes that number again, has as few digits as any that
does, and is nearest to the number among those.  The exact value lies between two neighbours on
the grid of each power of ten, so a decimal of that grid which becomes the number lies beyond one
of the neighbours, and what is between it and the exact value becomes the number as well.
Seventeen digits always suffice, as the grid is then finer than the numbers are dense.
-/

namespace SectionTimes.Binary64

variable {q cut : ℕ} {v x d : Scaled}

/-- The value of a decimal number. -/
def Scaled.value (d : Scaled) : ℚ := d.digits * 10 ^ d.exponent

/-- `d` is a decimal of fewest digits that becomes the number of `q` quanta, and no such decimal
is nearer to that number. -/
structure IsShortest (q : ℕ) (d : Scaled) : Prop where
  reads : d.toBinary = .finite false q
  fewest : ∀ x : Scaled, x.toBinary = .finite false q →
    (significant d.digits).length ≤ digitCount x.digits
  nearest : ∀ x : Scaled, x.toBinary = .finite false q →
    digitCount x.digits ≤ (significant d.digits).length →
    |d.value * one - q| ≤ |x.value * one - q|

theorem Scaled.toBinary_eq_iff :
    d.toBinary = .finite false q ↔ IsNearest (d.value * one) q ∧ q < overflow :=
  ofDecimal_eq_finite_iff

theorem one_quanta_pos : (0 : ℚ) < one := by exact_mod_cast zero_lt_one_quanta

/-- What lies between two decimals that become one number becomes it as well. -/
theorem Scaled.toBinary_of_between {u w : Scaled} (hu : u.toBinary = .finite false q)
    (hw : w.toBinary = .finite false q) (hud : u.value ≤ d.value) (hdw : d.value ≤ w.value) :
    d.toBinary = .finite false q := by
  rw [Scaled.toBinary_eq_iff] at hu hw ⊢
  obtain ⟨p, hp, -⟩ := isRounded_ofDecimal d.digits d.exponent
  have hone := one_quanta_pos.le
  have hpq : p = q := hp.of_between hu.1 hw.1 (mul_le_mul_of_nonneg_right hud hone)
    (mul_le_mul_of_nonneg_right hdw hone)
  exact ⟨hpq ▸ hp, hu.2⟩

/-! ## The exact value -/

theorem exact_value (q : ℕ) : (exact q).value * one = q := by
  obtain ⟨j, hj, hgcd⟩ : ∃ j ≤ 1074, Nat.gcd q one = 2 ^ j :=
    (Nat.dvd_prime_pow Nat.prime_two).1 (one_eq ▸ Nat.gcd_dvd_right q one)
  obtain ⟨n, hn⟩ := Nat.exists_eq_add_of_le hj
  have hq : (q / 2 ^ j : ℕ) * (2 ^ j : ℚ) = q := by
    have hdvd : 2 ^ j ∣ q := hgcd ▸ Nat.gcd_dvd_left q one
    exact_mod_cast Nat.div_mul_cancel hdvd
  have hplaces : 1074 - j = n := by omega
  have hexact : exact q = ⟨q / 2 ^ j * 5 ^ n, -(n : ℤ)⟩ := by
    unfold exact
    simp only [hgcd, Nat.log2_two_pow, hplaces]
    rfl
  have hten : (10 : ℚ) ^ n = 2 ^ n * 5 ^ n := by rw [← mul_pow]; norm_num
  rw [hexact, cast_one_eq, hn]
  show ((q / 2 ^ j * 5 ^ n : ℕ) : ℚ) * 10 ^ (-(n : ℤ)) * 2 ^ (j + n) = q
  rw [zpow_neg, zpow_natCast, hten, pow_add]
  push_cast at hq ⊢
  field_simp
  exact hq

theorem IsMagnitude.toBinary_exact (hq : IsMagnitude q) (hover : q < overflow) :
    (exact q).toBinary = .finite false q := by
  rw [Scaled.toBinary_eq_iff, exact_value]
  exact ⟨hq.isNearest_self, hover⟩

theorem exact_digits_ne_zero (hq : q ≠ 0) : (exact q).digits ≠ 0 := by
  intro h
  have hvalue := exact_value q
  rw [Scaled.value, h, Nat.cast_zero, zero_mul, zero_mul] at hvalue
  exact hq (by exact_mod_cast hvalue.symm)

/-! ## Neighbours on a grid -/

/-- The greatest decimal on the grid of `10 ^ cut` steps that is not above another one. -/
def Scaled.below (v : Scaled) (cut : ℕ) : Scaled := ⟨v.digits / 10 ^ cut, v.exponent + cut⟩

/-- The next decimal on the grid. -/
def Scaled.above (v : Scaled) (cut : ℕ) : Scaled := ⟨v.digits / 10 ^ cut + 1, v.exponent + cut⟩

/-- A decimal on the grid, by a number of steps. -/
theorem value_step (v : Scaled) (cut n : ℕ) :
    (⟨n, v.exponent + cut⟩ : Scaled).value = (n * 10 ^ cut : ℕ) * 10 ^ v.exponent := by
  show (n : ℚ) * 10 ^ (v.exponent + cut) = _
  rw [zpow_add₀ (by norm_num), zpow_natCast]
  push_cast
  ring

theorem ten_zpow_pos (e : ℤ) : (0 : ℚ) < 10 ^ e := zpow_pos (by norm_num) e

theorem below_value_le (v : Scaled) (cut : ℕ) : (v.below cut).value ≤ v.value := by
  unfold Scaled.below
  rw [value_step]
  refine mul_le_mul_of_nonneg_right ?_ (ten_zpow_pos _).le
  exact_mod_cast Nat.div_mul_le_self _ _

theorem lt_above_value (v : Scaled) (cut : ℕ) : v.value < (v.above cut).value := by
  unfold Scaled.above
  rw [value_step]
  refine mul_lt_mul_of_pos_right ?_ (ten_zpow_pos _)
  rw [Nat.succ_mul]
  exact_mod_cast Nat.lt_div_mul_add (show 0 < 10 ^ cut by positivity)

/-- A decimal is on the grid if its exponent is not below that of the grid. -/
theorem exists_steps (h : v.exponent + cut ≤ x.exponent) :
    ∃ n : ℕ, x.value = (n * 10 ^ cut : ℕ) * 10 ^ v.exponent := by
  obtain ⟨k, hk⟩ := Int.eq_ofNat_of_zero_le (sub_nonneg.2 h)
  refine ⟨x.digits * 10 ^ k, ?_⟩
  rw [Scaled.value, show x.exponent = k + cut + v.exponent by omega, zpow_add₀ (by norm_num),
    zpow_add₀ (by norm_num), zpow_natCast, zpow_natCast]
  push_cast
  ring

/-- No decimal of the grid is between the neighbours of a value. -/
theorem le_below_or_above_le (h : v.exponent + cut ≤ x.exponent) :
    x.value ≤ (v.below cut).value ∨ (v.above cut).value ≤ x.value := by
  obtain ⟨n, hn⟩ := exists_steps h
  unfold Scaled.below Scaled.above
  rw [value_step, value_step, hn]
  have hpos := ten_zpow_pos v.exponent
  rcases Nat.lt_or_ge (v.digits / 10 ^ cut) n with hlt | hle
  · right
    refine mul_le_mul_of_nonneg_right ?_ hpos.le
    exact_mod_cast Nat.mul_le_mul_right _ hlt
  · left
    refine mul_le_mul_of_nonneg_right ?_ hpos.le
    exact_mod_cast Nat.mul_le_mul_right _ hle

/-- A decimal that is finer than the grid and has no more digits than the grid leaves to a value
is below that value by far. -/
theorem le_below_of_short {k : ℕ} (hv : v.digits ≠ 0) (hk : 0 < k)
    (hcut : digitCount v.digits = k + cut) (hshort : digitCount x.digits ≤ k)
    (hfine : x.exponent < v.exponent + cut) : x.value ≤ (v.below cut).value := by
  have hfirst : 10 ^ (k - 1) * 10 ^ cut ≤ v.digits := by
    rw [← pow_add, show k - 1 + cut = digitCount v.digits - 1 by omega]
    exact ten_pow_digitCount_le hv
  have hsteps : 10 ^ (k - 1) ≤ v.digits / 10 ^ cut :=
    (Nat.le_div_iff_mul_le (by positivity)).2 hfirst
  have hten : ((10 ^ (k - 1) : ℕ) : ℚ) = 10 ^ ((k : ℤ) - 1) := by
    rw [Nat.cast_pow, Nat.cast_ofNat, ← zpow_natCast, Nat.cast_sub hk, Nat.cast_one]
  calc x.value ≤ 10 ^ ((digitCount x.digits : ℤ) + x.exponent) := (decimal_lt _ _).le
    _ ≤ 10 ^ ((k : ℤ) - 1 + (v.exponent + cut)) :=
        zpow_le_zpow_right₀ (by norm_num) (by omega)
    _ = (10 ^ (k - 1) : ℕ) * 10 ^ (v.exponent + cut) := by
        rw [zpow_add₀ (by norm_num), hten]
    _ ≤ (v.below cut).value :=
        mul_le_mul_of_nonneg_right (by exact_mod_cast hsteps) (ten_zpow_pos _).le

/-! ## The nearer neighbour -/

/-- A neighbour of a value on a grid. -/
def IsNeighbour (v : Scaled) (cut : ℕ) (d : Scaled) : Prop :=
  d = v.below cut ∨ d = v.above cut

theorem roundQuotient_eq_or (num den : ℕ) :
    roundQuotient num den = num / den ∨ roundQuotient num den = num / den + 1 := by
  unfold roundQuotient
  dsimp only
  split_ifs <;> simp

theorem neighbour?_eq (q : ℕ) (v : Scaled) (cut : ℕ) :
    neighbour? q v cut =
      match (v.below cut).toBinary == .finite false q,
        (v.above cut).toBinary == .finite false q with
      | true, true => some ⟨roundQuotient v.digits (10 ^ cut), v.exponent + cut⟩
      | true, false => some (v.below cut)
      | false, true => some (v.above cut)
      | false, false => none := rfl

/-- Rounding to the grid gives the nearer neighbour. -/
theorem roundQuotient_nearer (v : Scaled) (cut n : ℕ) :
    |(⟨roundQuotient v.digits (10 ^ cut), v.exponent + cut⟩ : Scaled).value - v.value| ≤
      |(⟨n, v.exponent + cut⟩ : Scaled).value - v.value| := by
  have hdistance : ∀ k : ℕ, |(⟨k, v.exponent + cut⟩ : Scaled).value - v.value| =
      (|(v.digits : ℤ) - k * (10 ^ cut : ℕ)| : ℤ) * 10 ^ v.exponent := by
    intro k
    rw [value_step, Scaled.value, ← sub_mul, abs_mul, abs_of_pos (ten_zpow_pos _), abs_sub_comm]
    push_cast
    rfl
  rw [hdistance, hdistance]
  refine mul_le_mul_of_nonneg_right ?_ (ten_zpow_pos _).le
  by_cases hn : n = roundQuotient v.digits (10 ^ cut)
  · rw [hn]
  · have hstep : 0 < 10 ^ cut := by positivity
    rcases roundQuotient_nearest hstep hn with h | h
    · exact_mod_cast h.le
    · exact_mod_cast h.1.le

theorem isNeighbour_roundQuotient (v : Scaled) (cut : ℕ) :
    IsNeighbour v cut ⟨roundQuotient v.digits (10 ^ cut), v.exponent + cut⟩ := by
  rcases roundQuotient_eq_or v.digits (10 ^ cut) with hround | hround
  · exact Or.inl (by rw [hround]; rfl)
  · exact Or.inr (by rw [hround]; rfl)

/-- The neighbour that is taken becomes the number and is the nearer one of those that do. -/
theorem neighbour?_eq_some (h : neighbour? q v cut = some d) :
    IsNeighbour v cut d ∧ d.toBinary = .finite false q ∧
      ∀ near, IsNeighbour v cut near → near.toBinary = .finite false q →
        |d.value - v.value| ≤ |near.value - v.value| := by
  rw [neighbour?_eq] at h
  split at h
  case h_1 hbelow habove =>
    obtain rfl := Option.some.inj h
    rw [beq_iff_eq] at hbelow habove
    have hd := isNeighbour_roundQuotient v cut
    refine ⟨hd, ?_, ?_⟩
    · rcases hd with hd | hd <;> rw [hd] <;> assumption
    · rintro near (rfl | rfl) -
      · exact roundQuotient_nearer v cut _
      · exact roundQuotient_nearer v cut _
  case h_2 hbelow habove =>
    obtain rfl := Option.some.inj h
    rw [beq_iff_eq] at hbelow
    refine ⟨Or.inl rfl, hbelow, ?_⟩
    rintro near (rfl | rfl) hnear
    · exact le_rfl
    · exact absurd hnear (by simpa using habove)
  case h_3 hbelow habove =>
    obtain rfl := Option.some.inj h
    rw [beq_iff_eq] at habove
    refine ⟨Or.inr rfl, habove, ?_⟩
    rintro near (rfl | rfl) hnear
    · exact absurd hnear (by simpa using hbelow)
    · exact le_rfl
  case h_4 => cases h

theorem neighbour?_eq_none (h : neighbour? q v cut = none) (hd : IsNeighbour v cut d) :
    d.toBinary ≠ .finite false q := by
  rw [neighbour?_eq] at h
  split at h <;> try cases h
  case h_4 hbelow habove =>
    rcases hd with rfl | rfl
    · simpa using hbelow
    · simpa using habove

/-- A decimal that becomes the number has a neighbour of the exact value no farther from it than
itself that does, on the grid that leaves as many digits as it has. -/
theorem exists_neighbour {k : ℕ} (hv : v.digits ≠ 0) (hk : 0 < k)
    (hexact : v.toBinary = .finite false q) (hx : x.toBinary = .finite false q)
    (hshort : digitCount x.digits ≤ k) :
    ∃ near, IsNeighbour v (digitCount v.digits - k) near ∧ near.toBinary = .finite false q ∧
      |near.value - v.value| ≤ |x.value - v.value| := by
  rcases Nat.le_total (digitCount v.digits) k with hle | hle
  · have hbelow : v.below 0 = v := by
      unfold Scaled.below
      rw [pow_zero, Nat.div_one, Nat.cast_zero, add_zero]
    refine ⟨v.below 0, Or.inl (by rw [Nat.sub_eq_zero_of_le hle]), by rwa [hbelow], ?_⟩
    rw [hbelow, sub_self, abs_zero]
    exact abs_nonneg _
  obtain ⟨cut, hcut⟩ := Nat.exists_eq_add_of_le hle
  rw [show digitCount v.digits - k = cut by omega]
  have hoff : x.value ≤ (v.below cut).value ∨ (v.above cut).value ≤ x.value := by
    rcases lt_or_ge x.exponent (v.exponent + cut) with hfine | hgrid
    · exact Or.inl (le_below_of_short hv hk hcut hshort hfine)
    · exact le_below_or_above_le hgrid
  have hbelow := below_value_le v cut
  have habove := (lt_above_value v cut).le
  rcases hoff with hoff | hoff
  · refine ⟨v.below cut, Or.inl rfl, Scaled.toBinary_of_between hx hexact hoff hbelow, ?_⟩
    rw [abs_of_nonpos (by linarith), abs_of_nonpos (by linarith)]
    linarith
  · refine ⟨v.above cut, Or.inr rfl, Scaled.toBinary_of_between hexact hx habove hoff, ?_⟩
    rw [abs_of_nonneg (by linarith), abs_of_nonneg (by linarith)]
    linarith

/-! ## The number of digits -/

/-- With seventeen digits left, a neighbour of the exact value becomes the number. -/
theorem exists_neighbour_seventeen (hq : IsMagnitude q) (hover : q < overflow)
    (hv : v.digits ≠ 0) (hvalue : v.value * one = q) :
    ∃ near, IsNeighbour v (digitCount v.digits - 17) near ∧ near.toBinary = .finite false q := by
  set cut := digitCount v.digits - 17 with hcut
  set n := roundQuotient v.digits (10 ^ cut) with hn
  have hnear : IsNeighbour v cut ⟨n, v.exponent + cut⟩ := isNeighbour_roundQuotient v cut
  refine ⟨_, hnear, Scaled.toBinary_eq_iff.2 ⟨hq.isNearest_of_abs_lt ?_, hover⟩⟩
  have hsteps : |(v.digits : ℤ) - n * (10 ^ cut : ℕ)| * 2 ^ 54 < v.digits := by
    have hhalf : 2 * |(v.digits : ℤ) - n * (10 ^ cut : ℕ)| ≤ (10 ^ cut : ℕ) := by
      rcases roundQuotient_cases v.digits (show 0 < 10 ^ cut by positivity) with h | h
      · exact h.le
      · exact h.1.le
    by_cases hzero : cut = 0
    · rw [hzero] at hhalf ⊢
      omega
    · have hfirst := ten_pow_digitCount_le hv
      rw [show digitCount v.digits - 1 = 16 + cut by omega, pow_add] at hfirst
      zify at hfirst
      push_cast at hhalf ⊢
      omega
  have hscale : (0 : ℚ) < 10 ^ v.exponent * one := mul_pos (ten_zpow_pos _) one_quanta_pos
  rw [← hvalue, value_step, Scaled.value, mul_assoc, mul_assoc, ← sub_mul, abs_mul,
    abs_of_pos hscale, abs_sub_comm, mul_right_comm]
  refine mul_lt_mul_of_pos_right ?_ hscale
  exact_mod_cast hsteps

/-- The digits without the zeros at their end are the same with more zeros there. -/
theorem significant_mul_ten_pow (n k : ℕ) (hn : 0 < n) :
    significant (n * 10 ^ k) = significant n := by
  induction k with
  | zero => rw [pow_zero, mul_one]
  | succ k ih =>
    have hpos : 0 < n * 10 ^ k := by positivity
    have hdigits : natDigits (n * 10 ^ (k + 1)) = natDigits (n * 10 ^ k) ++ ['0'] := by
      have happend := Nat.toDigits_append_toDigits (b := 10) (d := 0) (by decide) hpos (by decide)
      rw [Nat.toDigits_zero] at happend
      unfold natDigits
      rw [happend, pow_succ]
      congr 1
      ring
    rw [← ih, significant, hdigits, List.reverse_append]
    rfl

theorem length_significant_le (n : ℕ) : (significant n).length ≤ digitCount n := by
  unfold significant digitCount
  rw [List.length_reverse]
  refine (List.dropWhile_sublist _).length_le.trans ?_
  rw [List.length_reverse]
  exact le_rfl

/-- A neighbour has no more digits than the grid leaves, zeros at the end apart. -/
theorem IsNeighbour.length_significant_le {k : ℕ} (hk : 0 < k)
    (h : IsNeighbour v (digitCount v.digits - k) d) : (significant d.digits).length ≤ k := by
  have hlt : v.digits / 10 ^ (digitCount v.digits - k) < 10 ^ k := by
    refine Nat.div_lt_of_lt_mul ?_
    rw [← pow_add]
    exact (lt_ten_pow_digitCount _).trans_le (Nat.pow_le_pow_right (by decide) (by omega))
  have hd : d.digits < 10 ^ k ∨ d.digits = 1 * 10 ^ k := by
    rcases h with rfl | rfl
    · exact Or.inl hlt
    · rcases Nat.lt_or_eq_of_le (Nat.succ_le_of_lt hlt) with h | h
      · exact Or.inl h
      · exact Or.inr (h.trans (one_mul _).symm)
  rcases hd with hd | hd
  · exact (Binary64.length_significant_le _).trans ((digitCount_le_iff hk).2 hd)
  · rw [hd, significant_mul_ten_pow 1 k one_pos]
    exact hk

/-! ## The search -/

/-- The first grid on which a neighbour becomes the number is taken. -/
theorem firstGrid_eq {length : ℕ} (hlast : neighbour? q v (length - 17) ≠ none) {tries : ℕ}
    (hpos : 0 < tries) (htries : tries ≤ 17) :
    ∃ k, 18 - tries ≤ k ∧ neighbour? q v (length - k) = some (firstGrid q v length tries) ∧
      ∀ j, 18 - tries ≤ j → j < k → neighbour? q v (length - j) = none := by
  induction tries with
  | zero => exact absurd hpos (by decide)
  | succ tries ih =>
    rw [firstGrid]
    cases hfirst : neighbour? q v (length - (18 - (tries + 1))) with
    | some d => exact ⟨18 - (tries + 1), le_rfl, hfirst, fun j hj hlt => absurd hlt (by omega)⟩
    | none =>
      have hmore : 0 < tries := by
        by_contra hzero
        obtain rfl : tries = 0 := by omega
        exact hlast hfirst
      obtain ⟨k, hk, hsome, hnone⟩ := ih hmore (by omega)
      refine ⟨k, by omega, hsome, fun j hj hlt => ?_⟩
      by_cases hj' : j = 18 - (tries + 1)
      · rw [hj', hfirst]
      · exact hnone j (by omega) hlt

/-- The decimal that is written for a number is a shortest one. -/
theorem isShortest_shortestScaled (hq : IsMagnitude q) (hpos : 0 < q) (hover : q < overflow) :
    IsShortest q (shortestScaled q) := by
  have hv := exact_digits_ne_zero hpos.ne'
  have hexact := hq.toBinary_exact hover
  have hvalue := exact_value q
  unfold shortestScaled
  dsimp only
  generalize exact q = v at hv hexact hvalue ⊢
  have hlast : neighbour? q v (digitCount v.digits - 17) ≠ none := by
    intro hnone
    obtain ⟨near, hnear, hreads⟩ := exists_neighbour_seventeen hq hover hv hvalue
    exact neighbour?_eq_none hnone hnear hreads
  obtain ⟨k, hk, hsome, hnone⟩ := firstGrid_eq hlast (show 0 < 17 by decide) le_rfl
  obtain ⟨hneighbour, hreads, hnearer⟩ := neighbour?_eq_some hsome
  have hdigits := hneighbour.length_significant_le hk
  refine ⟨hreads, fun x hx => ?_, fun x hx hshort => ?_⟩
  · refine hdigits.trans (not_lt.1 fun hlt => ?_)
    have hlength : 0 < digitCount x.digits := Nat.length_toDigits_pos
    obtain ⟨near, hnear, hreads', -⟩ := exists_neighbour hv hlength hexact hx le_rfl
    exact neighbour?_eq_none (hnone _ hlength hlt) hnear hreads'
  · obtain ⟨near, hnear, hreads', hle⟩ :=
      exists_neighbour hv hk hexact hx (hshort.trans hdigits)
    have hone := one_quanta_pos
    rw [← hvalue, ← sub_mul, ← sub_mul, abs_mul, abs_mul]
    exact mul_le_mul_of_nonneg_right ((hnearer near hnear hreads').trans hle) (abs_nonneg _)

end SectionTimes.Binary64
