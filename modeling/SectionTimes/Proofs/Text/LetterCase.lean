import SectionTimes.Text.LetterCase

/-!
# Lower case and lines

A text that stands in one line does so in lower case too: no character other than the line feed
becomes one.
-/

namespace SectionTimes.Text

variable {c : Char} {s : List Char}

/-- Every code that a run of letters leads to is beyond that of the line feed. -/
theorem caseRuns_beyond_lineFeed : ∀ r ∈ caseRuns, 10 < (r.first : Int) + r.shift := by
  decide +kernel

theorem ofNat_ne_lineFeed {n : Nat} (h : n ≠ 10) : Char.ofNat n ≠ '\n' := by
  unfold Char.ofNat
  by_cases hvalid : n.isValidChar
  · rw [dif_pos hvalid]
    intro he
    exact h (congrArg Char.toNat he)
  · rw [dif_neg hvalid]
    decide

theorem lowerChar_ne_lineFeed (hc : c ≠ '\n') : lowerChar c ≠ '\n' := by
  unfold lowerChar
  split
  · rename_i r hr
    have hbeyond := caseRuns_beyond_lineFeed r (List.mem_of_find?_eq_some hr)
    have hholds := List.find?_some hr
    simp only [CaseRun.holds, Bool.and_eq_true, decide_eq_true_eq] at hholds
    apply ofNat_ne_lineFeed
    omega
  · exact hc

theorem lineFeed_not_mem_lowerFrom (hs : '\n' ∉ s) (before : List Char) :
    '\n' ∉ lowerFrom before s := by
  induction s generalizing before with
  | nil => exact hs
  | cons c s ih =>
    obtain ⟨hc, hrest⟩ := not_or.1 (mt List.mem_cons.2 hs)
    unfold lowerFrom
    dsimp only
    rw [List.mem_append, not_or]
    refine ⟨?_, ih hrest _⟩
    split
    · split <;> decide
    split
    · decide
    · rw [List.mem_singleton]
      exact (lowerChar_ne_lineFeed (Ne.symm hc)).symm

/-- Lower case makes no line feeds. -/
theorem lineFeed_not_mem_lower (hs : '\n' ∉ s) : '\n' ∉ lower s := lineFeed_not_mem_lowerFrom hs []

end SectionTimes.Text
