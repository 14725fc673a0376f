import Mathlib.Data.Int.ConditionallyCompleteOrder
import Mathlib.Order.ConditionallyCompleteLattice.Basic
import Mathlib.Order.WithBot
import SectionTimes.Number.Binary64

/-!
# The order of numbers

Numbers are ordered by their values.  The two zeros have one value; the infinities are below and
above all finite numbers.
-/

namespace SectionTimes.Binary64

/-- The value of a number in quanta; for what is no number it means nothing. -/
def value : Binary64 → WithBot (WithTop ℤ)
  | .nan => ⊥
  | .infinite true => ⊥
  | .infinite false => ⊤
  | .finite s q => ((signed s q : WithTop ℤ) : WithBot (WithTop ℤ))

variable {x y : Binary64}

theorem less_iff_value_lt (hx : x ≠ .nan) (hy : y ≠ .nan) :
    x.less y = true ↔ x.value < y.value := by
  cases x with
  | nan => exact absurd rfl hx
  | infinite s =>
    cases y with
    | nan => exact absurd rfl hy
    | infinite t => cases s <;> cases t <;> simp [less, value]
    | finite t b => cases s <;> simp [less, value]
  | finite s a =>
    cases y with
    | nan => exact absurd rfl hy
    | infinite t =>
      cases t with
      | true => simp [less, value]
      | false => exact iff_of_true rfl (WithBot.coe_lt_coe.2 (WithTop.coe_lt_top _))
    | finite t b => simp [less, value]

theorem same_iff_value_eq (hx : x ≠ .nan) (hy : y ≠ .nan) :
    x.same y = true ↔ x.value = y.value := by
  cases x with
  | nan => exact absurd rfl hx
  | infinite s =>
    cases y with
    | nan => exact absurd rfl hy
    | infinite t => cases s <;> cases t <;> simp [same, value]
    | finite t b => cases s <;> simp [same, value]
  | finite s a =>
    cases y with
    | nan => exact absurd rfl hy
    | infinite t => cases t <;> simp [same, value]
    | finite t b => simp [same, value]

/-- Only what is no number is not the same as itself. -/
theorem same_self (hx : x ≠ .nan) : x.same x = true := (same_iff_value_eq hx hx).2 rfl

end SectionTimes.Binary64
