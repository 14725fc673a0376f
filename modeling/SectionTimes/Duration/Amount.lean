import SectionTimes.Number.Binary64
import SectionTimes.Text.Digit

/-!
# Amounts

The seconds of a duration line as they are written: digits, and behind a point further digits.
The digits may be of any script, and there may be any number of them.
-/

namespace SectionTimes

open Text

/-- A decimal amount as it is written. -/
structure Amount where
  whole : List Char
  /-- The digits behind the point; none where there is no point. -/
  fraction : List Char
  deriving DecidableEq, Repr

namespace Amount

/-- What an amount consists of: at least one digit, and digits only. -/
def Valid (a : Amount) : Prop :=
  a.whole ≠ [] ∧ (∀ c ∈ a.whole, isDigit c = true) ∧ ∀ c ∈ a.fraction, isDigit c = true

/-- The amount as text. -/
def text (a : Amount) : List Char :=
  if a.fraction = [] then a.whole else a.whole ++ '.' :: a.fraction

/-- The number of seconds nearest to an amount. -/
def seconds (a : Amount) : Binary64 :=
  .ofDecimal false (digitsValue (a.whole ++ a.fraction)) (-(a.fraction.length : Int))

/-- Reads the longest amount at the beginning of a text, and what stands behind it.  A point
belongs to the amount only if a digit follows it. -/
def read? (s : List Char) : Option (Amount × List Char) :=
  let whole := s.takeWhile isDigit
  let rest := s.dropWhile isDigit
  if whole.isEmpty then none
  else
    match rest with
    | '.' :: behind =>
      let fraction := behind.takeWhile isDigit
      if fraction.isEmpty then some (⟨whole, []⟩, rest)
      else some (⟨whole, fraction⟩, behind.dropWhile isDigit)
    | _ => some (⟨whole, []⟩, rest)

end Amount

end SectionTimes
