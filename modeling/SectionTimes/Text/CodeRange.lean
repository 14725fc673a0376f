/-!
# Code ranges

A class of characters is given by the closed intervals of code points that it covers.
-/

namespace SectionTimes.Text

/-- A closed interval of code points, by its first and its last. -/
abbrev CodeRange := Nat × Nat

/-- The first code point of a range. -/
abbrev CodeRange.first (r : CodeRange) : Nat := r.1

/-- The last code point of a range. -/
abbrev CodeRange.last (r : CodeRange) : Nat := r.2

/-- Whether a character lies in a range. -/
def CodeRange.contains (r : CodeRange) (c : Char) : Bool := r.first ≤ c.toNat && c.toNat ≤ r.last

/-- Whether a character lies in one of several ranges. -/
def CodeRange.covers (rs : List CodeRange) (c : Char) : Bool := rs.any fun r => r.contains c

theorem CodeRange.covers_iff {rs : List CodeRange} {c : Char} :
    CodeRange.covers rs c = true ↔ ∃ r ∈ rs, r.first ≤ c.toNat ∧ c.toNat ≤ r.last := by
  simp [CodeRange.covers, CodeRange.contains]

/-- A character that lies in one of some ranges lies in none of others if no two of them meet. -/
theorem CodeRange.covers_eq_false_of_apart {rs ss : List CodeRange} {c : Char}
    (hapart : ∀ r ∈ rs, ∀ s ∈ ss, r.last < s.first ∨ s.last < r.first)
    (hc : CodeRange.covers rs c = true) : CodeRange.covers ss c = false := by
  obtain ⟨r, hr, hlo, hhi⟩ := CodeRange.covers_iff.1 hc
  refine Bool.eq_false_iff.2 fun hs => ?_
  obtain ⟨s, hs, hlo', hhi'⟩ := CodeRange.covers_iff.1 hs
  have := hapart r hr s hs
  omega

end SectionTimes.Text
