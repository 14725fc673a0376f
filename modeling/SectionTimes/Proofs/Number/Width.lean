import Mathlib.Algebra.Group.Nat.Defs
import Mathlib.Data.List.Forall2
import Mathlib.Data.Nat.Init
import Mathlib.Order.Nat
import SectionTimes.Number.Decimal

/-!
# Numbers of fixed width

Numbers that are written with the same number of digits, with zeros before them where they are
short, are in the same order as texts as they are as numbers.  So are lists of such numbers behind
hyphens, compared number by number.
-/

namespace SectionTimes

/-! ## Texts of the same length -/

variable {a b : List Char}

theorem append_lt_append_left (h : a < b) (s : List Char) : s ++ a < s ++ b := by
  induction s with
  | nil => exact h
  | cons c s ih => exact List.cons_lt_cons_iff.2 (Or.inr ⟨rfl, ih⟩)

/-- The first difference between texts of the same length decides, whatever comes behind them. -/
theorem append_lt_append_of_lt (hlength : a.length = b.length) (h : a < b) (s t : List Char) :
    a ++ s < b ++ t := by
  induction a generalizing b with
  | nil =>
    obtain rfl := List.length_eq_zero_iff.1 hlength.symm
    exact absurd h (List.lt_irrefl _)
  | cons c a ih =>
    cases b with
    | nil => simp at hlength
    | cons d b =>
      refine List.cons_lt_cons_iff.2 ?_
      rcases List.cons_lt_cons_iff.1 h with hlt | ⟨heq, hlt⟩
      · exact Or.inl hlt
      · exact Or.inr ⟨heq, ih (by simpa using hlength) hlt⟩

/-! ## One number -/

/-- The digits of a number with zeros before them, up to a width. -/
def fixedWidth (width n : ℕ) : List Char := padStart '0' width (natDigits n)

variable {width n m : ℕ}

theorem length_fixedWidth (hwidth : 0 < width) (hn : n < 10 ^ width) :
    (fixedWidth width n).length = width := by
  have hdigits : (natDigits n).length ≤ width :=
    (Nat.length_toDigits_le_iff (by decide) hwidth).2 hn
  unfold fixedWidth padStart
  rw [List.length_append, List.length_replicate]
  omega

theorem fixedWidth_one (hn : n < 10) : fixedWidth 1 n = [n.digitChar] := by
  unfold fixedWidth natDigits
  rw [Nat.toDigits_of_lt_base hn]
  rfl

/-- The last digit stands behind the others. -/
theorem fixedWidth_succ (hwidth : 0 < width) (n : ℕ) :
    fixedWidth (width + 1) n = fixedWidth width (n / 10) ++ [(n % 10).digitChar] := by
  unfold fixedWidth padStart natDigits
  by_cases h : n < 10
  · obtain ⟨w, rfl⟩ := Nat.exists_eq_add_of_lt hwidth
    rw [Nat.div_eq_of_lt h, Nat.mod_eq_of_lt h, Nat.toDigits_of_lt_base h, Nat.toDigits_zero]
    simp [List.replicate_succ']
  · rw [Nat.toDigits_of_base_le (by decide) (not_lt.1 h), List.length_append, List.length_singleton,
      Nat.add_sub_add_right, List.append_assoc]

theorem digitChar_lt_digitChar (hm : m < 10) (h : n < m) : n.digitChar < m.digitChar := by
  rw [Char.lt_def, UInt32.lt_iff_toNat_lt]
  show n.digitChar.toNat < m.digitChar.toNat
  rw [Nat.toNat_digitChar_of_lt_ten hm, Nat.toNat_digitChar_of_lt_ten (h.trans hm)]
  omega

theorem fixedWidth_lt_fixedWidth (hwidth : 0 < width) (hm : m < 10 ^ width) (h : n < m) :
    fixedWidth width n < fixedWidth width m := by
  induction width, hwidth using Nat.le_induction generalizing n m with
  | base =>
    have hm : m < 10 := hm
    show fixedWidth 1 n < fixedWidth 1 m
    rw [fixedWidth_one hm, fixedWidth_one (h.trans hm)]
    exact List.cons_lt_cons_iff.2 (Or.inl (digitChar_lt_digitChar hm h))
  | succ width hwidth ih =>
    rw [Nat.pow_succ] at hm
    have hwidth : 0 < width := hwidth
    rw [fixedWidth_succ hwidth, fixedWidth_succ hwidth]
    rcases Nat.lt_or_ge (n / 10) (m / 10) with hlt | hge
    · refine append_lt_append_of_lt ?_ (ih (by omega) hlt) _ _
      rw [length_fixedWidth hwidth (by omega), length_fixedWidth hwidth (by omega)]
    · have heq : n / 10 = m / 10 := by omega
      rw [heq]
      refine append_lt_append_left (List.cons_lt_cons_iff.2 (Or.inl ?_)) _
      exact digitChar_lt_digitChar (by omega) (by omega)

/-! ## Several numbers -/

/-- Numbers of fixed widths, each behind a hyphen. -/
def hyphened (widths ns : List ℕ) : List Char :=
  (List.zipWith fixedWidth widths ns).flatMap fun digits => '-' :: digits

/-- Each number can be written with its width. -/
def Fit (widths ns : List ℕ) : Prop :=
  List.Forall₂ (fun width n => 0 < width ∧ n < 10 ^ width) widths ns

theorem hyphened_cons (width : ℕ) (widths : List ℕ) (n : ℕ) (ns : List ℕ) :
    hyphened (width :: widths) (n :: ns) = '-' :: (fixedWidth width n ++ hyphened widths ns) := rfl

/-- Numbers behind hyphens are in the order of the first number in which they differ. -/
theorem hyphened_lt_hyphened {widths ns ms : List ℕ} (hns : Fit widths ns) (hms : Fit widths ms)
    (h : ns < ms) (s : List Char) : hyphened widths ns ++ s < hyphened widths ms ++ s := by
  induction hns generalizing ms with
  | nil =>
    cases hms
    exact absurd h (List.lt_irrefl _)
  | @cons width n widths ns hn hns ih =>
    obtain ⟨m, ms, hm, hrest, rfl⟩ := List.forall₂_cons_left_iff.1 hms
    rw [hyphened_cons, hyphened_cons, List.cons_append, List.cons_append, List.append_assoc,
      List.append_assoc]
    refine List.cons_lt_cons_iff.2 (Or.inr ⟨rfl, ?_⟩)
    rcases List.cons_lt_cons_iff.1 h with hlt | ⟨rfl, hlt⟩
    · refine append_lt_append_of_lt ?_ (fixedWidth_lt_fixedWidth hm.1 hm.2 hlt) _ _
      rw [length_fixedWidth hn.1 hn.2, length_fixedWidth hm.1 hm.2]
    · exact append_lt_append_left (ih hrest hlt) _

end SectionTimes
