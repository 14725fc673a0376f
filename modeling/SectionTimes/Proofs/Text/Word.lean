import SectionTimes.Text.Blank
import SectionTimes.Text.LineEnd
import SectionTimes.Text.Word

/-!
# What is no word character

No word character is a blank, a control character or a break between lines.
-/

namespace SectionTimes.Text

variable {c : Char}

/-- The control characters, as code ranges. -/
def controlRanges : List CodeRange := [(0x00, 0x1F), (0x7F, 0x9F)]

/-- Whether a character is a control character. -/
def isControl (c : Char) : Bool := CodeRange.covers controlRanges c

/-- No range of word characters meets a range of blanks or of control characters. -/
theorem wordRanges_apart : ∀ w ∈ wordRanges, ∀ b ∈ blankRanges ++ controlRanges,
    w.last < b.first ∨ b.last < w.first := by
  decide +kernel

/-- Every break between lines is a blank. -/
theorem isBlank_of_isBreak (h : isBreak c = true) : isBlank c = true := by
  have hcodes : ∀ n ∈ [0x0A, 0x0B, 0x0C, 0x0D, 0x1C, 0x1D, 0x1E, 0x85, 0x2028, 0x2029],
      ∃ b ∈ blankRanges, b.first ≤ n ∧ n ≤ b.last := by
    decide
  exact CodeRange.covers_iff.2 (hcodes c.toNat (of_decide_eq_true h))

/-- A character that shows in one line: neither a blank nor a control character nor a break. -/
structure IsVisible (c : Char) : Prop where
  blank : isBlank c = false
  control : isControl c = false
  lineBreak : isBreak c = false

theorem isVisible_of_isWord (h : isWord c = true) : IsVisible c := by
  have hblank : isBlank c = false := CodeRange.covers_eq_false_of_apart
    (fun w hw b hb => wordRanges_apart w hw b (List.mem_append_left _ hb)) h
  refine ⟨hblank, CodeRange.covers_eq_false_of_apart
    (fun w hw b hb => wordRanges_apart w hw b (List.mem_append_right _ hb)) h, ?_⟩
  refine Bool.eq_false_iff.2 fun hbreak => ?_
  rw [isBlank_of_isBreak hbreak] at hblank
  cases hblank

/-- The letters of ASCII are word characters. -/
theorem isWord_of_isAlpha (h : c.isAlpha = true) : isWord c = true := by
  have hranges : (0x41, 0x5A) ∈ wordRanges ∧ (0x61, 0x7A) ∈ wordRanges := by decide
  rcases Bool.or_eq_true_iff.1 h with hupper | hlower
  · exact CodeRange.covers_iff.2 ⟨_, hranges.1, of_decide_eq_true hupper⟩
  · obtain ⟨hfirst, hlast⟩ := Bool.and_eq_true_iff.1 hlower
    exact CodeRange.covers_iff.2
      ⟨_, hranges.2, of_decide_eq_true hfirst, of_decide_eq_true hlast⟩

end SectionTimes.Text
