import SectionTimes.Proofs.Number.Rounding

/-!
# Rounding to decimal places

A number is rounded to decimal places in two steps: to the multiple of a power of ten that is
nearest to it, and from there to the number that is nearest to that multiple.  In both steps the
even one of two that are equally near is taken.  The sign stays.
-/

namespace SectionTimes.Binary64

/-- The opposite of a number, if it is to be negative. -/
def withMinus (negative : Bool) (x : Binary64) : Binary64 := if negative then -x else x

theorem withMinus_false (x : Binary64) : withMinus false x = x := if_neg Bool.false_ne_true

/-- `y` is `x` rounded to decimal places.  Among the multiples of the last place `n` is the one
nearest to the magnitude of `x`, and `y` has the magnitude nearest to that multiple. -/
inductive IsRoundedTo (places : ℕ) : Binary64 → Binary64 → Prop where
  | nan : IsRoundedTo places .nan .nan
  | infinite (s : Bool) : IsRoundedTo places (.infinite s) (.infinite s)
  | finite {s : Bool} {q n : ℕ} {y : Binary64}
      (nearest : 2 * |((q * 10 ^ places : ℕ) : ℤ) - n * one| < one ∨
        2 * |((q * 10 ^ places : ℕ) : ℤ) - n * one| = one ∧ Even n)
      (rounded : IsRounded (n * 10 ^ (-(places : ℤ))) y) :
      IsRoundedTo places (.finite s q) (withMinus s y)

theorem zero_lt_one_quanta : 0 < one := by
  rw [one_eq]
  positivity

theorem ofQuanta_eq_withMinus (s : Bool) (num den : ℕ) :
    ofQuanta s num den = withMinus s (ofQuanta false num den) := by
  cases s with
  | false => exact (withMinus_false _).symm
  | true =>
    unfold ofQuanta
    dsimp only
    by_cases h : roundQuanta num den < overflow
    · rw [if_pos h, if_pos h]
      rfl
    · rw [if_neg h, if_neg h]
      rfl

/-- The sign of a decimal number is that of its digits. -/
theorem ofDecimal_eq_withMinus (s : Bool) (digits : ℕ) (exponent : ℤ) :
    ofDecimal s digits exponent = withMinus s (ofDecimal false digits exponent) := by
  cases s with
  | false => exact (withMinus_false _).symm
  | true =>
    unfold ofDecimal
    dsimp only
    rw [ofQuanta_eq_withMinus true, ofQuanta_eq_withMinus true]
    split_ifs <;> rfl

/-- Rounding to places is what it should be. -/
theorem isRoundedTo_roundPlaces (places : ℕ) (x : Binary64) :
    IsRoundedTo places x (x.roundPlaces places) := by
  cases x with
  | nan => exact .nan
  | infinite s => exact .infinite s
  | finite s q =>
    change IsRoundedTo places _
      (ofDecimal s (roundQuotient (q * 10 ^ places) one) (-(places : ℤ)))
    rw [ofDecimal_eq_withMinus]
    exact .finite (roundQuotient_cases _ zero_lt_one_quanta) (isRounded_ofDecimal _ _)

end SectionTimes.Binary64
