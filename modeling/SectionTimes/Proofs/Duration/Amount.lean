import Mathlib.Data.List.TakeWhile
import SectionTimes.Duration.Amount
import SectionTimes.Proofs.Number.Rounding
import SectionTimes.Proofs.Text.Trim

/-!
# Written amounts

An amount is read back from its text whatever stands behind it, as long as that begins with a
character that is neither a digit nor a point.  The seconds of an amount are the binary number
nearest to what its digits say.
-/

namespace SectionTimes

open Text

/-! ## Digits and blanks -/

/-- No range of digits meets a range of blanks. -/
theorem digitRanges_apart : ∀ d ∈ digitRanges, ∀ b ∈ blankRanges,
    d.last < b.first ∨ b.last < d.first := by
  decide

theorem isBlank_eq_false_of_isDigit {c : Char} (h : isDigit c = true) : isBlank c = false :=
  CodeRange.covers_eq_false_of_apart digitRanges_apart h

namespace Amount

variable {a : Amount} {c : Char}

/-! ## The text of an amount -/

theorem text_of_fraction_nil (h : a.fraction = []) : a.text = a.whole := by
  rw [text, if_pos h]

theorem text_of_fraction_ne_nil (h : a.fraction ≠ []) :
    a.text = a.whole ++ '.' :: a.fraction := by
  rw [text, if_neg h]

theorem text_eq_cons_of_whole_ne_nil (hne : a.whole ≠ []) :
    ∃ d ∈ a.whole, ∃ s, a.text = d :: s := by
  obtain ⟨d, s, hs⟩ := List.exists_cons_of_ne_nil hne
  refine ⟨d, hs ▸ List.mem_cons_self, ?_⟩
  by_cases hf : a.fraction = []
  · exact ⟨s, by rw [text_of_fraction_nil hf, hs]⟩
  · exact ⟨s ++ '.' :: a.fraction, by rw [text_of_fraction_ne_nil hf, hs]; rfl⟩

/-- The text of an amount begins with a digit. -/
theorem Valid.exists_text_eq_cons (ha : a.Valid) :
    ∃ d s, isDigit d = true ∧ a.text = d :: s := by
  obtain ⟨d, hd, s, hs⟩ := text_eq_cons_of_whole_ne_nil ha.1
  exact ⟨d, s, ha.2.1 d hd, hs⟩

/-! ## Reading -/

/-- An amount is read back from its text. -/
theorem read?_text_append (ha : a.Valid) (hd : isDigit c = false) (hp : c ≠ '.')
    (r : List Char) : read? (a.text ++ c :: r) = some (a, c :: r) := by
  obtain ⟨hne, hwhole, hfraction⟩ := ha
  unfold read?
  by_cases hf : a.fraction = []
  · rw [text_of_fraction_nil hf, takeWhile_append_stop hwhole hd, dropWhile_append_stop hwhole hd]
    -- No point follows the digits, so the reader takes the branch for all other characters.
    have hend : ∀ behind, c :: r = '.' :: behind → False := fun _ he => hp (List.cons.inj he).1
    simp only [List.isEmpty_iff, hne, if_false]
    rw [← hf]
  · have hpoint : isDigit '.' = false := by decide
    rw [text_of_fraction_ne_nil hf, List.append_assoc, List.cons_append,
      takeWhile_append_stop hwhole hpoint, dropWhile_append_stop hwhole hpoint]
    simp only [takeWhile_append_stop hfraction hd, dropWhile_append_stop hfraction hd,
      List.isEmpty_iff, hne, hf, if_false]

/-- What is read is an amount and stands at the beginning. -/
theorem eq_of_read? {s rest : List Char} (h : read? s = some (a, rest)) :
    a.Valid ∧ s = a.text ++ rest := by
  have hwhole : ∀ x ∈ s.takeWhile isDigit, isDigit x = true :=
    fun x hx => List.mem_takeWhile_imp hx
  have hs : s = s.takeWhile isDigit ++ s.dropWhile isDigit :=
    List.takeWhile_append_dropWhile.symm
  unfold read? at h
  simp only [List.isEmpty_iff] at h
  by_cases hne : s.takeWhile isDigit = []
  · rw [if_pos hne] at h
    cases h
  rw [if_neg hne] at h
  split at h
  · rename_i behind hrest
    by_cases hf : behind.takeWhile isDigit = []
    · rw [if_pos hf] at h
      cases h
      exact ⟨⟨hne, hwhole, by simp⟩, hs⟩
    · rw [if_neg hf] at h
      cases h
      refine ⟨⟨hne, hwhole, fun x hx => List.mem_takeWhile_imp hx⟩, ?_⟩
      rw [text_of_fraction_ne_nil hf, List.append_assoc, List.cons_append,
        List.takeWhile_append_dropWhile, ← hrest]
      exact hs
  · cases h
    exact ⟨⟨hne, hwhole, by simp⟩, hs⟩

/-! ## Seconds -/

theorem digitsValue_append (s t : List Char) :
    digitsValue (s ++ t) = digitsValue s * 10 ^ t.length + digitsValue t := by
  have hfold : ∀ (t : List Char) (n : ℕ), t.foldl (fun n c => 10 * n + digitValue c) n =
      n * 10 ^ t.length + digitsValue t := by
    intro t
    induction t with
    | nil => simp [digitsValue]
    | cons c t ih =>
      intro n
      unfold digitsValue
      rw [List.foldl_cons, List.foldl_cons, ih, ih, List.length_cons]
      ring
  unfold digitsValue
  rw [List.foldl_append]
  exact hfold t _

/-- What the digits of an amount say. -/
def value (a : Amount) : ℚ :=
  digitsValue a.whole + digitsValue a.fraction / 10 ^ a.fraction.length

theorem value_eq (a : Amount) :
    a.value = digitsValue (a.whole ++ a.fraction) * 10 ^ (-(a.fraction.length : ℤ)) := by
  have hpow : (10 : ℚ) ^ a.fraction.length ≠ 0 := by positivity
  rw [value, digitsValue_append, zpow_neg, zpow_natCast]
  push_cast
  field_simp

/-- The seconds of an amount are the nearest number to it. -/
theorem isRounded_seconds (a : Amount) : Binary64.IsRounded a.value a.seconds := by
  rw [value_eq]
  exact Binary64.isRounded_ofDecimal _ _

end Amount

end SectionTimes
