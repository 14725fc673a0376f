import Mathlib.Data.Bool.AllAny
import SectionTimes.Number.Numeral
import SectionTimes.Proofs.Number.Places
import SectionTimes.Proofs.Number.Width

/-!
# Texts of numbers

A number with a number of places is written as the multiple of the last place that is nearest to
its exact value: the whole part, a point, and the digits of the places.  Few characters come in
texts of numbers: digits, signs, points, exponents and the words for what is not finite.
-/

namespace SectionTimes

open Numeral (isAsciiDigit)

variable {width n : ℕ} {c : Char} {s : List Char}

/-! ## The characters of numbers -/

/-- The characters that come in texts of numbers. -/
def numberChars : List Char := "0123456789.-+einftyNaI".toList

theorem isAsciiDigit_iff : isAsciiDigit c = true ↔ c.isDigit = true := by
  unfold isAsciiDigit Char.isDigit
  simp [Char.le_def]

/-- What holds of the ten ASCII digits holds of every ASCII digit. -/
theorem forall_isAsciiDigit {P : Char → Prop} (hP : ∀ c ∈ "0123456789".toList, P c)
    (h : isAsciiDigit c = true) : P c := by
  have hdigits : ∀ n < 58, isAsciiDigit (Char.ofNat n) = true →
      Char.ofNat n ∈ "0123456789".toList := by decide
  have hlast : c.toNat < 58 := by
    simp only [isAsciiDigit, Bool.and_eq_true, decide_eq_true_eq, Char.le_def,
      UInt32.le_iff_toNat_le] at h
    exact Nat.lt_succ_of_le h.2
  have hmem := hdigits c.toNat hlast
  rw [Char.ofNat_toNat] at hmem
  exact hP c (hmem h)

theorem mem_numberChars_of_isAsciiDigit (h : isAsciiDigit c = true) : c ∈ numberChars :=
  forall_isAsciiDigit (P := (· ∈ numberChars)) (List.all_iff_forall_prop.1 (by decide)) h

theorem isAsciiDigit_of_mem_natDigits (h : c ∈ natDigits n) : isAsciiDigit c = true :=
  isAsciiDigit_iff.2 (Nat.isDigit_of_mem_toDigits (by decide) (by decide) h)

theorem isAsciiDigit_of_mem_fixedWidth (h : c ∈ fixedWidth width n) : isAsciiDigit c = true := by
  rcases List.mem_append.1 h with hfill | hdigit
  · rw [List.eq_of_mem_replicate hfill]
    rfl
  · exact isAsciiDigit_of_mem_natDigits hdigit

namespace Binary64

/-- A text of a number, with or without a sign. -/
theorem forall_mem_withSign {p : Char → Prop} {negative : Bool} (hsign : p '-')
    (hs : ∀ c ∈ s, p c) : ∀ c ∈ withSign negative s, p c := by
  cases negative with
  | false => exact hs
  | true => exact List.forall_mem_cons.2 ⟨hsign, hs⟩

/-! ## Places -/

/-- A text of a number with decimal places.  The multiple of the last place that is nearest to the
number is written, and of two that are equally near the even one. -/
inductive IsFixedText (places : ℕ) : Binary64 → List Char → Prop where
  | nan : IsFixedText places .nan "nan".toList
  | infinite (s : Bool) : IsFixedText places (.infinite s) (withSign s "inf".toList)
  | finite {s : Bool} {q n : ℕ}
      (nearest : 2 * |((q * 10 ^ places : ℕ) : ℤ) - n * one| < one ∨
        2 * |((q * 10 ^ places : ℕ) : ℤ) - n * one| = one ∧ Even n) :
      IsFixedText places (.finite s q)
        (withSign s (natDigits (n / 10 ^ places) ++ '.' :: fixedWidth places (n % 10 ^ places)))

/-- A number that is written with one digit more than there are places is divided between them. -/
theorem fixedWidth_eq_append (hwidth : 0 < width) (n : ℕ) :
    fixedWidth (width + 1) n = natDigits (n / 10 ^ width) ++ fixedWidth width (n % 10 ^ width) := by
  induction width, hwidth using Nat.le_induction generalizing n with
  | base =>
    have hone : ∀ m, fixedWidth 1 m = natDigits m := fun m => by
      have hlength : 0 < (natDigits m).length := Nat.length_toDigits_pos
      unfold fixedWidth padStart
      rw [show 1 - (natDigits m).length = 0 by omega]
      rfl
    rw [fixedWidth_succ (by decide), Nat.succ_eq_add_one, pow_one,
      fixedWidth_one (Nat.mod_lt n (by decide)), hone]
  | succ width hwidth ih =>
    have hrest : n % 10 ^ (width + 1) / 10 = n / 10 % 10 ^ width := by
      rw [pow_succ', Nat.mod_mul_right_div_self]
    have hlast : n % 10 ^ (width + 1) % 10 = n % 10 :=
      Nat.mod_mod_of_dvd n (Dvd.intro_left (10 ^ width) rfl)
    rw [fixedWidth_succ (by omega), ih, fixedWidth_succ hwidth (n % 10 ^ (width + 1)), hrest, hlast,
      Nat.div_div_eq_div_mul, pow_succ', List.append_assoc]

theorem isFixedText_fixed {places : ℕ} (hplaces : 0 < places) (x : Binary64) :
    IsFixedText places x (x.fixed places) := by
  cases x with
  | nan => exact .nan
  | infinite s => exact .infinite s
  | finite s q =>
    set n := roundQuotient (q * 10 ^ places) one with hn
    have hlength : (fixedWidth places (n % 10 ^ places)).length = places :=
      length_fixedWidth hplaces (Nat.mod_lt _ (by positivity))
    have htext : (finite s q).fixed places =
        withSign s (natDigits (n / 10 ^ places) ++ '.' :: fixedWidth places (n % 10 ^ places)) := by
      have hdivide : ∀ digits, digits = fixedWidth (places + 1) n → (finite s q).fixed places =
          withSign s (digits.take (digits.length - places) ++
            '.' :: digits.drop (digits.length - places)) := by
        rintro _ rfl
        rfl
      rw [hdivide _ rfl, fixedWidth_eq_append hplaces, List.length_append, hlength,
        Nat.add_sub_cancel, List.take_left, List.drop_left]
    rw [htext]
    exact .finite (roundQuotient_cases _ zero_lt_one_quanta)

theorem IsFixedText.mem_numberChars {places : ℕ} {x : Binary64} (h : IsFixedText places x s) :
    ∀ c ∈ s, c ∈ numberChars := by
  cases h with
  | nan => exact List.all_iff_forall_prop.1 (by decide)
  | infinite negative =>
    exact forall_mem_withSign (by decide) (List.all_iff_forall_prop.1 (by decide))
  | finite =>
    refine forall_mem_withSign (by decide) fun c hc => ?_
    rcases List.mem_append.1 hc with hwhole | hrest
    · exact mem_numberChars_of_isAsciiDigit (isAsciiDigit_of_mem_natDigits hwhole)
    · rcases List.mem_cons.1 hrest with rfl | hplaces
      · decide
      · exact mem_numberChars_of_isAsciiDigit (isAsciiDigit_of_mem_fixedWidth hplaces)

theorem toList_toMillis (x : Binary64) : x.toMillis.toList = x.fixed 3 := String.toList_ofList

/-- The text with three digits after the point is what it should be. -/
theorem isFixedText_toMillis (x : Binary64) : IsFixedText 3 x x.toMillis.toList := by
  rw [toList_toMillis]
  exact isFixedText_fixed (by decide) x

end Binary64

end SectionTimes
