/-!
# The code page of old archives

An archive that does not say otherwise writes names in the code page of the first personal
computers: ASCII, and above it one character for each of the remaining 128 bytes.
-/

namespace SectionTimes.CodePage

/-- The characters of the bytes from 128 on. -/
def upperHalf : List Char :=
  ("ÇüéâäàåçêëèïîìÄÅÉæÆôöòûùÿÖÜ¢£¥₧ƒáíóúñÑªº¿⌐¬½¼¡«»░▒▓│┤╡╢╖╕╣║╗╝╜╛┐" ++
   "└┴┬├─┼╞╟╚╔╩╦╠═╬╧╨╤╥╙╘╒╓╫╪┘┌█▄▌▐▀αßΓπΣσµτΦΘΩδ∞φε∩≡±≥≤⌠⌡÷≈°∙·√ⁿ²■\u00a0").toList

/-- The character of a byte. -/
def char (b : UInt8) : Char :=
  if b < 128 then Char.ofNat b.toNat else (upperHalf[b.toNat - 128]?).getD '?'

/-- The text of a run of bytes. -/
def decode (bytes : List UInt8) : List Char := bytes.map char

end SectionTimes.CodePage
