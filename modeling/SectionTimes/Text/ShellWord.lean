/-!
# Shell words

A text is passed to a shell as one word.  A word of harmless characters stands as it is; any
other is put between single quotes, and a single quote inside it is written between double
quotes, outside the single ones.
-/

namespace SectionTimes.Text

/-- The characters that no shell treats specially: ASCII letters and digits and a few marks. -/
def isHarmless (c : Char) : Bool :=
  c.isAlphanum || c ∈ ['@', '%', '_', '+', '=', ':', ',', '.', '/', '-']

/-- One character of a word between single quotes. -/
def shellChar (c : Char) : List Char := if c = '\'' then ['\'', '"', '\'', '"', '\''] else [c]

/-- A text written as one shell word. -/
def shellWord (s : List Char) : List Char :=
  if s.isEmpty then ['\'', '\'']
  else if s.all isHarmless then s
  else '\'' :: s.flatMap shellChar ++ ['\'']

/-- A string written as one shell word. -/
def shellQuote (s : String) : String := String.ofList (shellWord s.toList)

end SectionTimes.Text
