/-!
# Halves of characters

An escape by a code of 16 bits may stand for half of a character: two halves, a high one and a
low one behind it, are one character that such a code has no room for.  A half without the other
is no character.
-/

namespace SectionTimes.Text

/-- Whether a code is a half that comes first. -/
def isHighHalf (code : Nat) : Bool := 0xD800 ≤ code && code < 0xDC00

/-- Whether a code is a half that comes second. -/
def isLowHalf (code : Nat) : Bool := 0xDC00 ≤ code && code < 0xE000

/-- Whether a code is half of a character. -/
def isHalf (code : Nat) : Bool := isHighHalf code || isLowHalf code

/-- The character of two halves. -/
def pairChar (high low : Nat) : Char :=
  Char.ofNat (0x10000 + (high - 0xD800) * 0x400 + (low - 0xDC00))

/-- The character of a code that stands alone; a half is shown as a replacement. -/
def codeChar (code : Nat) : Char := Char.ofNat (if isHalf code then 0xFFFD else code)

/-- The text of codes, with halves put together. -/
def joinHalves : List Nat → List Char
  | [] => []
  | [code] => [codeChar code]
  | high :: low :: codes =>
    if isHighHalf high && isLowHalf low then pairChar high low :: joinHalves codes
    else codeChar high :: joinHalves (low :: codes)

end SectionTimes.Text
