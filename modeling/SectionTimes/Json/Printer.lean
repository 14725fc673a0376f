import SectionTimes.Json.Basic
import SectionTimes.Number.Decimal
import SectionTimes.Text.Halves
import SectionTimes.Text.Quoted

/-!
# Writing JSON

What is written is ASCII: every other character of a string is escaped by its UTF-16 units.
Infinities and the undefined number are written as words.  A value is written on one line, or
with every item and member on a line of its own, two spaces deeper than what holds it.
-/

namespace SectionTimes.Json

open Text

/-- An escape by a UTF-16 unit. -/
def unitEscape (unit : Nat) : List Char := '\\' :: 'u' :: hexDigits 4 unit

/-- One character inside a string. -/
def escaped (c : Char) : List Char :=
  if c = '"' then ['\\', '"']
  else if c = '\\' then ['\\', '\\']
  else if c = '\n' then ['\\', 'n']
  else if c = '\r' then ['\\', 'r']
  else if c = '\t' then ['\\', 't']
  else if c = '\x0c' then ['\\', 'f']
  else if c = '\x08' then ['\\', 'b']
  else if 0x20 ≤ c.toNat && c.toNat ≤ 0x7E then [c]
  else if c.toNat < 0x10000 then unitEscape c.toNat
  else
    unitEscape (0xD800 + (c.toNat - 0x10000) / 0x400) ++
      unitEscape (0xDC00 + (c.toNat - 0x10000) % 0x400)

/-- A string. -/
def stringText (s : List Char) : List Char := '"' :: s.flatMap escaped ++ ['"']

/-- A character, or half of one, inside a string. -/
def escapedCode (code : Nat) : List Char :=
  if isHalf code then unitEscape code else escaped (Char.ofNat code)

/-- A string with halves of characters in it. -/
def halvedText (codes : List Nat) : List Char := '"' :: codes.flatMap escapedCode ++ ['"']

/-- A floating-point number: its shortest text, or a word. -/
def floatText : Binary64 → List Char
  | .nan => "NaN".toList
  | .infinite negative => Binary64.withSign negative "Infinity".toList
  | x => x.shortest

/-- An integer. -/
def intText (i : Int) : List Char := Binary64.withSign (i < 0) (natDigits i.natAbs)

/-- How the parts of a list or an object are set apart. -/
structure Layout where
  /-- What stands behind the opening bracket, before the closing one and behind each comma; it
  depends on the depth. -/
  gap : Nat → List Char
  /-- What stands behind the colon of a member. -/
  colonGap : List Char

/-- All on one line. -/
def Layout.compact : Layout := ⟨fun _ => [], []⟩

/-- Each part on a line of its own. -/
def Layout.indented : Layout := ⟨fun depth => '\n' :: List.replicate (2 * depth) ' ', [' ']⟩

/-- Parts between brackets; without parts there is nothing between the brackets. -/
def bracketed (layout : Layout) (depth : Nat) (opening closing : Char) :
    List (List Char) → List Char
  | [] => [opening, closing]
  | part :: parts =>
    opening :: layout.gap (depth + 1) ++ part ++
      parts.flatMap (fun p => ',' :: layout.gap (depth + 1) ++ p) ++ layout.gap depth ++ [closing]

mutual

/-- The text of a value that stands at a given depth. -/
def textAt (layout : Layout) (depth : Nat) : Json → List Char
  | .null => "null".toList
  | .bool b => if b then "true".toList else "false".toList
  | .int i => intText i
  | .float x => floatText x
  | .text s => stringText s.toList
  | .halved codes => halvedText codes
  | .list items => bracketed layout depth '[' ']' (itemTexts layout (depth + 1) items)
  | .object members => bracketed layout depth '\x7b' '\x7d' (memberTexts layout (depth + 1) members)

/-- The texts of the items of a list. -/
def itemTexts (layout : Layout) (depth : Nat) : List Json → List (List Char)
  | [] => []
  | item :: items => textAt layout depth item :: itemTexts layout depth items

/-- The texts of the members of an object. -/
def memberTexts (layout : Layout) (depth : Nat) : List (String × Json) → List (List Char)
  | [] => []
  | (name, value) :: members =>
    (stringText name.toList ++ ':' :: layout.colonGap ++ textAt layout depth value) ::
      memberTexts layout depth members

end

/-- A value on one line. -/
def compact (j : Json) : String := String.ofList (j.textAt .compact 0)

/-- A value with every item and member on a line of its own. -/
def indented (j : Json) : String := String.ofList (j.textAt .indented 0)

end SectionTimes.Json
