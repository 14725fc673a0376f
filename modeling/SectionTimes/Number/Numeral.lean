import SectionTimes.Number.Binary64
import SectionTimes.Text.Blank
import SectionTimes.Text.Digit

/-!
# Numerals

Reading a number from a text that a person wrote: digits of any script, single underscores
between digits, a sign, and blanks around.  The separators of ASCII are no blanks here.
-/

namespace SectionTimes.Numeral

open Text

/-- The longest run of digits that is read as an integer. -/
def maxDigits : Nat := 4300

/-- The blanks that may stand around a numeral: the six of ASCII and those outside ASCII. -/
def isMargin (c : Char) : Bool := isAsciiBlank c || (128 ≤ c.toNat && isBlank c)

/-- A text with its surrounding blanks removed and its digits in ASCII. -/
def prepared (s : List Char) : List Char :=
  (trimBy isMargin s).map fun c => if isDigit c then Char.ofNat (48 + digitValue c) else c

/-- Whether a character is an ASCII digit. -/
def isAsciiDigit (c : Char) : Bool := '0' ≤ c && c ≤ '9'

/-- The text without its underscores, if each stands between two digits; `previous` is the
character before. -/
def joined (previous : Option Char) : List Char → Option (List Char)
  | [] => some []
  | '_' :: c :: s =>
    if (previous.any isAsciiDigit) && isAsciiDigit c then joined (some '_') (c :: s) else none
  | ['_'] => none
  | c :: s => (joined (some c) s).map (c :: ·)

/-- A sign at the beginning of a text, whether it is a minus, and the rest. -/
def sign : List Char → Bool × List Char
  | '-' :: s => (true, s)
  | '+' :: s => (false, s)
  | s => (false, s)

/-- The integer that a text denotes. -/
def readInt (s : List Char) : Option Int := do
  let (negative, body) := sign (prepared s)
  let digits ← joined none body
  if digits.isEmpty || !digits.all isAsciiDigit || maxDigits < digits.length then none
  else some (Binary64.signed negative (digitsValue digits))

/-- An exponent: the letter e, a sign and digits, or nothing. -/
def readExponent : List Char → Option Int
  | [] => some 0
  | c :: s =>
    let (negative, digits) := sign s
    if (c = 'e' || c = 'E') && !digits.isEmpty && digits.all isAsciiDigit then
      some (Binary64.signed negative (digitsValue digits))
    else none

/-- The number denoted by digits with at most one point among them and an exponent. -/
def readMagnitude (negative : Bool) (s : List Char) : Option Binary64 := do
  let whole := s.takeWhile isAsciiDigit
  let rest := s.dropWhile isAsciiDigit
  let (fraction, rest) :=
    match rest with
    | '.' :: r => (r.takeWhile isAsciiDigit, r.dropWhile isAsciiDigit)
    | r => ([], r)
  if whole.isEmpty && fraction.isEmpty then none
  else
    let exponent ← readExponent rest
    some (.ofDecimal negative (digitsValue (whole ++ fraction)) (exponent - fraction.length))

/-- The number that a text denotes; infinities and the undefined number are written in words. -/
def readBinary (s : List Char) : Option Binary64 := do
  let (negative, body) := sign (← joined none (prepared s))
  match String.ofList (body.map Char.toLower) with
  | "inf" | "infinity" => some (.infinite negative)
  | "nan" => some .nan
  | _ => readMagnitude negative body

end SectionTimes.Numeral
