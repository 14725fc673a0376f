import SectionTimes.Proofs.Duration.Amount
import SectionTimes.Proofs.Number.Fixed
import SectionTimes.Proofs.Number.Shortest

/-!
# The parts of a decimal text

The text of a positive decimal number is made of digits before a point, digits behind it, and an
exponent.  What these say is the value of the decimal, in the positional form as in the scientific
one, and no digits stand before the point that need not.
-/

namespace SectionTimes

open Text Numeral
open Binary64 (Scaled significant exponentText)

/-! ## What digits say -/

section Digits

variable {s : List Char} {n : ℕ}

theorem digitValue_of_isAsciiDigit {c : Char} (h : isAsciiDigit c = true) :
    digitValue c = c.toNat - '0'.toNat :=
  forall_isAsciiDigit (P := fun c => digitValue c = c.toNat - '0'.toNat)
    (List.all_iff_forall_prop.1 (by decide)) h

theorem digitsValue_eq_ofDigitChars (h : ∀ c ∈ s, isAsciiDigit c = true) :
    digitsValue s = Nat.ofDigitChars 10 s 0 := by
  rw [Nat.ofDigitChars_eq_foldl]
  exact List.foldl_ext _ _ _ fun n c hc => by rw [digitValue_of_isAsciiDigit (h c hc)]

theorem digitsValue_natDigits (n : ℕ) : digitsValue (natDigits n) = n := by
  rw [digitsValue_eq_ofDigitChars fun _ => isAsciiDigit_of_mem_natDigits]
  exact Nat.ofDigitChars_ten_toDigits

theorem digitsValue_zeros (k : ℕ) : digitsValue (List.replicate k '0') = 0 := by
  rw [digitsValue_eq_ofDigitChars fun c hc => by rw [List.eq_of_mem_replicate hc]; rfl,
    Nat.ofDigitChars_replicate_zero, mul_zero]

theorem digitsValue_append_zeros (s : List Char) (k : ℕ) :
    digitsValue (s ++ List.replicate k '0') = digitsValue s * 10 ^ k := by
  rw [Amount.digitsValue_append, digitsValue_zeros, add_zero, List.length_replicate]

theorem digitsValue_zeros_append (k : ℕ) (s : List Char) :
    digitsValue (List.replicate k '0' ++ s) = digitsValue s := by
  rw [Amount.digitsValue_append, digitsValue_zeros, zero_mul, zero_add]

theorem isAsciiDigit_of_mem_zeros {k : ℕ} : ∀ c ∈ List.replicate k '0', isAsciiDigit c = true := by
  intro c hc
  rw [List.eq_of_mem_replicate hc]
  rfl

/-- The first digit of a positive number is not zero. -/
theorem head?_natDigits_ne (hn : 0 < n) : (natDigits n).head? ≠ some '0' := by
  induction n using Nat.strong_induction_on with
  | _ n ih =>
    by_cases hlt : n < 10
    · have hdigit : ∀ n < 10, 0 < n → (natDigits n).head? ≠ some '0' := by decide
      exact hdigit n hlt hn
    · have hmore := ih (n / 10) (by omega) (by omega)
      have hne : natDigits (n / 10) ≠ [] := Nat.toDigits_ne_nil
      unfold natDigits at hmore hne ⊢
      rw [Nat.toDigits_of_base_le (by decide) (not_lt.1 hlt)]
      rwa [List.head?_append_of_ne_nil _ hne]

/-- The digits of a number are the significant ones and zeros behind them. -/
theorem exists_natDigits_eq (n : ℕ) :
    ∃ k, natDigits n = significant n ++ List.replicate k '0' := by
  have happend : significant n ++ (natDigits n).rtakeWhile (· == '0') = natDigits n :=
    List.rdropWhile_append_rtakeWhile
  refine ⟨((natDigits n).rtakeWhile (· == '0')).length, ?_⟩
  rw [← List.eq_replicate_of_mem fun c hc => by simpa using List.mem_rtakeWhile_imp hc, happend]

theorem isAsciiDigit_of_mem_significant {c : Char} (h : c ∈ significant n) :
    isAsciiDigit c = true := by
  obtain ⟨k, hk⟩ := exists_natDigits_eq n
  exact isAsciiDigit_of_mem_natDigits (hk ▸ List.mem_append_left _ h)

theorem significant_ne_nil (hn : 0 < n) : significant n ≠ [] := by
  obtain ⟨k, hk⟩ := exists_natDigits_eq n
  intro hnil
  have hvalue := digitsValue_natDigits n
  rw [hk, hnil, List.nil_append, digitsValue_zeros] at hvalue
  omega

theorem head?_significant_ne (hn : 0 < n) : (significant n).head? ≠ some '0' := by
  obtain ⟨k, hk⟩ := exists_natDigits_eq n
  have hhead := head?_natDigits_ne hn
  rwa [hk, List.head?_append_of_ne_nil _ (significant_ne_nil hn)] at hhead

end Digits

/-! ## Parts -/

namespace Numeral

/-- The parts of a decimal text. -/
structure Parts where
  /-- The digits before the point. -/
  whole : List Char
  /-- The digits behind the point; without such digits there is no point. -/
  fraction : List Char
  /-- The exponent, if there is one. -/
  exponent : Option ℤ

variable {p : Parts}

/-- The text that is made of the parts. -/
def Parts.text (p : Parts) : List Char :=
  p.whole ++ (if p.fraction = [] then [] else '.' :: p.fraction) ++ p.exponent.elim [] exponentText

/-- What the parts say. -/
def Parts.value (p : Parts) : ℚ :=
  digitsValue (p.whole ++ p.fraction) * 10 ^ (p.exponent.getD 0 - p.fraction.length)

/-- The parts of a number with a point or an exponent, without a zero before the first digit. -/
structure Parts.WellFormed (p : Parts) : Prop where
  digits : ∀ c ∈ p.whole ++ p.fraction, isAsciiDigit c = true
  whole_ne_nil : p.whole ≠ []
  leading : p.whole.head? = some '0' → p.whole.length = 1
  marked : p.fraction ≠ [] ∨ p.exponent ≠ none

/-- A text is made of the parts of a number, and these say `v`. -/
def Denotes (s : List Char) (v : ℚ) : Prop :=
  ∃ p : Parts, p.WellFormed ∧ p.text = s ∧ p.value = v

/-- Digits on both sides of a point. -/
theorem denotes_positional {whole fraction : List Char}
    (hdigits : ∀ c ∈ whole ++ fraction, isAsciiDigit c = true) (hwhole : whole ≠ [])
    (hleading : whole.head? = some '0' → whole.length = 1) (hfraction : fraction ≠ []) :
    Denotes (whole ++ '.' :: fraction)
      (digitsValue (whole ++ fraction) * 10 ^ (-(fraction.length : ℤ))) := by
  refine ⟨⟨whole, fraction, none⟩, ⟨hdigits, hwhole, hleading, Or.inl hfraction⟩, ?_, ?_⟩
  · show whole ++ (if fraction = [] then [] else '.' :: fraction) ++ [] = _
    rw [if_neg hfraction, List.append_nil]
  · show _ * (10 : ℚ) ^ (0 - (fraction.length : ℤ)) = _
    rw [zero_sub]

section

variable {ds : List Char} (hdigits : ∀ c ∈ ds, isAsciiDigit c = true) (hne : ds ≠ [])

include hdigits hne

/-- Zeros between the point and the first digit. -/
theorem denotes_zeros_append (k : ℕ) :
    Denotes ('0' :: '.' :: List.replicate k '0' ++ ds)
      (digitsValue ds * 10 ^ (-(k : ℤ) - ds.length)) := by
  have hvalue : digitsValue (['0'] ++ (List.replicate k '0' ++ ds)) = digitsValue ds := by
    rw [← List.append_assoc, ← digitsValue_zeros_append (k + 1) ds]
    rfl
  have hlength : -((List.replicate k '0' ++ ds).length : ℤ) = -(k : ℤ) - ds.length := by
    rw [List.length_append, List.length_replicate]
    push_cast
    ring
  rw [← hvalue, ← hlength]
  have hall : ∀ c ∈ ['0'] ++ (List.replicate k '0' ++ ds), isAsciiDigit c = true :=
    List.forall_mem_append.2 ⟨List.forall_mem_singleton.2 rfl,
      List.forall_mem_append.2 ⟨isAsciiDigit_of_mem_zeros, hdigits⟩⟩
  exact denotes_positional hall (List.cons_ne_nil _ _) (fun _ => rfl)
    (List.append_ne_nil_of_right_ne_nil _ hne)

/-- Zeros between the last digit and the point. -/
theorem denotes_append_zeros (hhead : ds.head? ≠ some '0') (k : ℕ) :
    Denotes (ds ++ List.replicate k '0' ++ '.' :: ['0'])
      (digitsValue ds * 10 ^ (k : ℤ)) := by
  have hvalue : (digitsValue ds * 10 ^ (k : ℤ) : ℚ) =
      digitsValue (ds ++ List.replicate k '0' ++ ['0']) * 10 ^ (-(['0'].length : ℤ)) := by
    rw [List.append_assoc, show List.replicate k '0' ++ ['0'] = List.replicate (k + 1) '0' from
      List.replicate_succ'.symm, digitsValue_append_zeros, List.length_singleton, zpow_neg,
      Nat.cast_one, zpow_one, zpow_natCast]
    push_cast
    rw [pow_succ]
    field_simp
  rw [hvalue]
  refine denotes_positional ?_ (List.append_ne_nil_of_left_ne_nil hne _) ?_ (List.cons_ne_nil _ _)
  · exact List.forall_mem_append.2 ⟨List.forall_mem_append.2
      ⟨hdigits, isAsciiDigit_of_mem_zeros⟩, List.forall_mem_singleton.2 rfl⟩
  · intro h
    rw [List.head?_append_of_ne_nil _ hne] at h
    exact absurd h hhead

omit hne in
/-- The point among the digits. -/
theorem denotes_split (hhead : ds.head? ≠ some '0') {n : ℕ} (hpos : 0 < n) (hn : n < ds.length) :
    Denotes (ds.take n ++ '.' :: ds.drop n) (digitsValue ds * 10 ^ ((n : ℤ) - ds.length)) := by
  have hlength : -((ds.drop n).length : ℤ) = (n : ℤ) - ds.length := by
    rw [List.length_drop]
    omega
  have hfirst : ds.take n ≠ [] := List.ne_nil_of_length_pos (by rw [List.length_take]; omega)
  have hrest : ds.drop n ≠ [] := List.ne_nil_of_length_pos (by rw [List.length_drop]; omega)
  have hform := denotes_positional ((List.take_append_drop n ds).symm ▸ hdigits) hfirst
    (fun h => absurd h (by rwa [List.head?_take, if_neg hpos.ne'])) hrest
  rwa [List.take_append_drop, hlength] at hform

end

/-- One digit before the point and an exponent. -/
theorem denotes_scientific {c : Char} {fraction : List Char}
    (hdigits : ∀ x ∈ c :: fraction, isAsciiDigit x = true) (e : ℤ) :
    Denotes (c :: (if fraction = [] then [] else '.' :: fraction) ++ exponentText e)
      (digitsValue (c :: fraction) * 10 ^ (e - fraction.length)) :=
  ⟨⟨[c], fraction, some e⟩, ⟨hdigits, by simp, fun _ => rfl, by simp⟩, rfl, rfl⟩

end Numeral

namespace Binary64

variable {d : Scaled}

/-- A decimal is what its significant digits say, with the point moved. -/
theorem Scaled.value_eq (d : Scaled) : d.value = digitsValue (significant d.digits) *
    10 ^ ((digitCount d.digits : ℤ) + d.exponent - (significant d.digits).length) := by
  obtain ⟨k, hk⟩ := exists_natDigits_eq d.digits
  have hdigits : d.digits = digitsValue (significant d.digits) * 10 ^ k := by
    rw [← digitsValue_append_zeros, ← hk, digitsValue_natDigits]
  have hcount : digitCount d.digits = (significant d.digits).length + k := by
    show (natDigits d.digits).length = _
    rw [hk, List.length_append, List.length_replicate]
  rw [hcount, show ((significant d.digits).length + k : ℕ) + d.exponent -
    ((significant d.digits).length : ℤ) = k + d.exponent by omega, zpow_add₀ (by norm_num),
    zpow_natCast, ← mul_assoc]
  unfold Scaled.value
  conv_lhs => rw [hdigits]
  push_cast
  rfl

/-- The positional form: the first digit counts `10 ^ e`, and the point stands behind the ones. -/
theorem denotes_plain {ds : List Char} {e : ℤ} (hdigits : ∀ c ∈ ds, isAsciiDigit c = true)
    (hne : ds ≠ []) (hhead : ds.head? ≠ some '0') :
    Denotes
      (if e < 0 then '0' :: '.' :: List.replicate (-e - 1).toNat '0' ++ ds
      else padEnd '0' (e.toNat + 1) (ds.take (e.toNat + 1)) ++
        '.' :: (if (ds.drop (e.toNat + 1)).isEmpty then ['0'] else ds.drop (e.toNat + 1)))
      (digitsValue ds * 10 ^ (e + 1 - ds.length)) := by
  by_cases hneg : e < 0
  · rw [if_pos hneg, show e + 1 - ds.length = -((-e - 1).toNat : ℤ) - ds.length by omega]
    exact denotes_zeros_append hdigits hne _
  rw [if_neg hneg]
  obtain ⟨n, rfl⟩ : ∃ n : ℕ, e = n := Int.eq_ofNat_of_zero_le (not_lt.1 hneg)
  rw [Int.toNat_natCast]
  unfold padEnd
  rcases Nat.lt_or_ge (n + 1) ds.length with hlong | hshort
  · have hfirst : (ds.take (n + 1)).length = n + 1 := List.length_take_of_le hlong.le
    rw [hfirst, Nat.sub_self, List.replicate_zero, List.append_nil, if_neg (by simpa using hlong)]
    exact denotes_split hdigits hhead n.succ_pos hlong
  · obtain ⟨k, hk⟩ := Nat.exists_eq_add_of_le hshort
    rw [List.take_of_length_le hshort, List.drop_of_length_le hshort, if_pos List.isEmpty_nil,
      show n + 1 - ds.length = k by omega, show (n : ℤ) + 1 - ds.length = k by omega]
    exact denotes_append_zeros hdigits hne hhead k

/-- The text of a decimal is made of parts that say the decimal. -/
theorem Scaled.denotes_text (hd : 0 < d.digits) : Denotes d.text d.value := by
  have hne := significant_ne_nil hd
  have hhead := head?_significant_ne hd
  have hdigits : ∀ c ∈ significant d.digits, isAsciiDigit c = true :=
    fun c hc => isAsciiDigit_of_mem_significant hc
  rw [d.value_eq, show (digitCount d.digits : ℤ) + d.exponent =
    (digitCount d.digits : ℤ) - 1 + d.exponent + 1 by ring]
  unfold Scaled.text
  dsimp only
  generalize significant d.digits = ds at hne hhead hdigits ⊢
  generalize (digitCount d.digits : ℤ) - 1 + d.exponent = e
  by_cases hplain : -4 ≤ e ∧ e < 16
  · rw [if_pos hplain]
    exact denotes_plain hdigits hne hhead
  · rw [if_neg hplain]
    obtain ⟨c, rest, rfl⟩ := List.exists_cons_of_ne_nil hne
    have hform := denotes_scientific hdigits e
    rw [List.length_cons, Nat.cast_succ,
      show e + 1 - ((rest.length : ℤ) + 1) = e - rest.length by ring]
    cases rest with
    | nil => exact hform
    | cons c' rest => exact hform

end Binary64

end SectionTimes
