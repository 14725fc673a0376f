import SectionTimes.Text.CodeRange

/-!
# Blanks

The characters that separate words: the blanks and separators of ASCII, next line, the no-break
space, and the space, line and paragraph separators of the other scripts.  Trimming a text
removes blanks at both ends and nothing between.
-/

namespace SectionTimes.Text

/-- The blanks, as code ranges. -/
def blankRanges : List CodeRange :=
  [(0x09, 0x0D), (0x1C, 0x20), (0x85, 0x85), (0xA0, 0xA0), (0x1680, 0x1680), (0x2000, 0x200A),
   (0x2028, 0x2029), (0x202F, 0x202F), (0x205F, 0x205F), (0x3000, 0x3000)]

/-- Whether a character is a blank. -/
def isBlank (c : Char) : Bool := CodeRange.covers blankRanges c

/-- The six blanks of ASCII: tab, line feed, vertical tab, form feed, carriage return, space. -/
def isAsciiBlank (c : Char) : Bool := (9 ≤ c.toNat && c.toNat ≤ 13) || c == ' '

/-- Drops the characters of a class from the end of a text. -/
def trimEnd (p : Char → Bool) (s : List Char) : List Char := (s.reverse.dropWhile p).reverse

/-- Drops the characters of a class from both ends of a text. -/
def trimBy (p : Char → Bool) (s : List Char) : List Char := trimEnd p (s.dropWhile p)

/-- Drops the blanks at both ends of a text. -/
def trim (s : List Char) : List Char := trimBy isBlank s

/-- Drops the blanks at both ends of a string. -/
def trimString (s : String) : String := String.ofList (trim s.toList)

/-- Every blank of ASCII is a blank. -/
theorem isBlank_of_isAsciiBlank {c : Char} (h : isAsciiBlank c = true) : isBlank c = true := by
  simp only [isAsciiBlank, Bool.or_eq_true, Bool.and_eq_true, decide_eq_true_eq, beq_iff_eq] at h
  rcases h with ⟨h₁, h₂⟩ | rfl
  · exact CodeRange.covers_iff.2 ⟨(9, 13), by simp [blankRanges], h₁, h₂⟩
  · decide

end SectionTimes.Text
