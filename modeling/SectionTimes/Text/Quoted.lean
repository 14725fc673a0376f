import SectionTimes.Text.Halves
import SectionTimes.Text.Printable

/-!
# Quoted text

A message shows a text or a run of bytes between quotes, in one line and in visible characters:
tab, line feed and carriage return have short escapes, a quote of the kind used and the
backslash are escaped, and whatever has no visible form is written by its code.
-/

namespace SectionTimes.Text

/-- The digits 0 to 9 and a to f. -/
def hexDigit (n : Nat) : Char := if n < 10 then Char.ofNat (48 + n) else Char.ofNat (87 + n)

/-- The last `width` hexadecimal digits of a number, leading zeros included. -/
def hexDigits : Nat → Nat → List Char
  | 0, _ => []
  | width + 1, n => hexDigits width (n / 16) ++ [hexDigit (n % 16)]

/-- A character without a visible form, by its code in the shortest of three widths. -/
def codeEscape (n : Nat) : List Char :=
  if n < 0x100 then '\\' :: 'x' :: hexDigits 2 n
  else if n < 0x10000 then '\\' :: 'u' :: hexDigits 4 n
  else '\\' :: 'U' :: hexDigits 8 n

/-- The quote to use: the single one, unless that occurs in the text and the double one does not. -/
def quoteFor (s : List Char) : Char := if s.contains '\'' && !s.contains '"' then '"' else '\''

/-- One character inside quotes. -/
def quotedChar (quote c : Char) : List Char :=
  if c = quote || c = '\\' then ['\\', c]
  else if c = '\t' then ['\\', 't']
  else if c = '\n' then ['\\', 'n']
  else if c = '\r' then ['\\', 'r']
  else if isPrintable c then [c]
  else codeEscape c.toNat

/-- A text between quotes. -/
def quoted (s : List Char) : List Char :=
  let quote := quoteFor s
  quote :: s.flatMap (quotedChar quote) ++ [quote]

/-- A string between quotes. -/
def quote (s : String) : String := String.ofList (quoted s.toList)

/-- A text in which there may be halves of characters, between quotes; these are written by their
codes. -/
def quoteCodes (codes : List Nat) : String :=
  let quote := quoteFor (codes.map codeChar)
  let shown (code : Nat) :=
    if isHalf code then codeEscape code else quotedChar quote (codeChar code)
  String.ofList (quote :: codes.flatMap shown ++ [quote])

/-- One byte inside quotes: bytes outside visible ASCII are written by their code. -/
def quotedByte (quote : Char) (b : UInt8) : List Char :=
  if b < 0x7F then quotedChar quote (Char.ofNat b.toNat) else codeEscape b.toNat

/-- A run of bytes between quotes, marked by a leading `b`. -/
def quoteBytes (bytes : List UInt8) : String :=
  let quote := quoteFor (bytes.map fun b => Char.ofNat b.toNat)
  String.ofList ('b' :: quote :: bytes.flatMap (quotedByte quote) ++ [quote])

end SectionTimes.Text
