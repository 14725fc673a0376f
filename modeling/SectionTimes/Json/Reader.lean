import SectionTimes.Json.Basic
import SectionTimes.Number.Numeral
import SectionTimes.Text.Halves

/-!
# Reading JSON

The reader takes what the grammar of JSON allows, and the words for infinities and the undefined
number.  Of several members of an object with one name the last counts, at the place of the
first.  Every value takes at least one character, so the length of the text bounds the depth to
which values are read.
-/

namespace SectionTimes.Json

open Numeral (isAsciiDigit)
open Text (isHighHalf isLowHalf pairChar codeChar)

/-- The blanks of JSON. -/
def isBlank (c : Char) : Bool := c = ' ' || c = '\t' || c = '\n' || c = '\r'

/-- What stands behind the blanks at the beginning of a text. -/
def skipBlanks (s : List Char) : List Char := s.dropWhile isBlank

/-- The value of a hexadecimal digit. -/
def hexValue? (c : Char) : Option Nat :=
  if '0' ≤ c ∧ c ≤ '9' then some (c.toNat - 48)
  else if 'a' ≤ c ∧ c ≤ 'f' then some (c.toNat - 87)
  else if 'A' ≤ c ∧ c ≤ 'F' then some (c.toNat - 55)
  else none

/-- The UTF-16 unit that four hexadecimal digits denote. -/
def unit? (a b c d : Char) : Option Nat := do
  return (((← hexValue? a) * 16 + (← hexValue? b)) * 16 + (← hexValue? c)) * 16 + (← hexValue? d)

/-- The character of an escape by one letter. -/
def letterEscape? : Char → Option Char
  | '"' => some '"'
  | '\\' => some '\\'
  | '/' => some '/'
  | 'b' => some '\x08'
  | 'f' => some '\x0c'
  | 'n' => some '\n'
  | 'r' => some '\r'
  | 't' => some '\t'
  | _ => none

/-- Reads the characters of a string up to its closing quote, and what stands behind it.
`high` is a unit that may begin a pair. -/
def readString (high : Option Nat) (done : List Char) : List Char → Option (List Char × List Char)
  | '\\' :: 'u' :: a :: b :: c :: d :: s => do
    let unit ← unit? a b c d
    match high with
    | some h =>
      if isLowHalf unit then readString none (pairChar h unit :: done) s
      else if isHighHalf unit then readString (some unit) (codeChar h :: done) s
      else readString none (codeChar unit :: codeChar h :: done) s
    | none =>
      if isHighHalf unit then readString (some unit) done s
      else readString none (codeChar unit :: done) s
  | c :: s =>
    let done := match high with
      | some h => codeChar h :: done
      | none => done
    match c, s with
    | '"', s => some (done.reverse, s)
    | '\\', e :: s => do readString none ((← letterEscape? e) :: done) s
    | c, s => if c.toNat < 0x20 || c = '\\' then none else readString none (c :: done) s
  | [] => none

/-- Reads a number: digits, perhaps a fraction, perhaps an exponent. -/
def readNumber (negative : Bool) (s : List Char) : Option (Json × List Char) := do
  let whole := s.takeWhile isAsciiDigit
  let rest := s.dropWhile isAsciiDigit
  if whole.isEmpty || (whole.head? == some '0' && whole.length != 1) then none
  let (fraction, rest) ← match rest with
    | '.' :: r =>
      if (r.takeWhile isAsciiDigit).isEmpty then none
      else some (some (r.takeWhile isAsciiDigit), r.dropWhile isAsciiDigit)
    | r => some (none, r)
  let (exponent, rest) ← match rest with
    | c :: r =>
      if c = 'e' || c = 'E' then
        let (minus, digits) := Numeral.sign r
        if (digits.takeWhile isAsciiDigit).isEmpty then none
        else some (some (Binary64.signed minus (Text.digitsValue (digits.takeWhile isAsciiDigit))),
          digits.dropWhile isAsciiDigit)
      else some (none, c :: r)
    | [] => some (none, [])
  match fraction, exponent with
  | none, none => return (.int (Binary64.signed negative (Text.digitsValue whole)), rest)
  | _, _ =>
    let fraction := fraction.getD []
    return (.float (.ofDecimal negative (Text.digitsValue (whole ++ fraction))
      (exponent.getD 0 - fraction.length)), rest)

/-- Reads a word, a number or a string. -/
def readScalar (s : List Char) : Option (Json × List Char) :=
  match s with
  | '"' :: s => (readString none [] s).map fun (chars, rest) => (.text (String.ofList chars), rest)
  | 'n' :: 'u' :: 'l' :: 'l' :: s => some (.null, s)
  | 't' :: 'r' :: 'u' :: 'e' :: s => some (.bool true, s)
  | 'f' :: 'a' :: 'l' :: 's' :: 'e' :: s => some (.bool false, s)
  | 'N' :: 'a' :: 'N' :: s => some (.float .nan, s)
  | 'I' :: 'n' :: 'f' :: 'i' :: 'n' :: 'i' :: 't' :: 'y' :: s => some (.float (.infinite false), s)
  | '-' :: 'I' :: 'n' :: 'f' :: 'i' :: 'n' :: 'i' :: 't' :: 'y' :: s =>
    some (.float (.infinite true), s)
  | '-' :: s => readNumber true s
  | s => readNumber false s

/-- The members of an object with one more written behind them. -/
def putMember (members : List (String × Json)) (name : String) (value : Json) :
    List (String × Json) :=
  if members.any fun m => m.1 == name then
    members.map fun m => if m.1 == name then (name, value) else m
  else members ++ [(name, value)]

mutual

/-- Reads a value and gives it with what stands behind it. -/
def readValue : Nat → List Char → Option (Json × List Char)
  | 0, _ => none
  | fuel + 1, s =>
    match skipBlanks s with
    | '[' :: s =>
      match skipBlanks s with
      | ']' :: s => some (.list [], s)
      | s => readItems fuel [] s
    | '\x7b' :: s =>
      match skipBlanks s with
      | '\x7d' :: s => some (.object [], s)
      | s => readMembers fuel [] s
    | s => readScalar s

/-- Reads the items of a list up to its closing bracket. -/
def readItems : Nat → List Json → List Char → Option (Json × List Char)
  | 0, _, _ => none
  | fuel + 1, done, s => do
    let (item, s) ← readValue fuel s
    match skipBlanks s with
    | ']' :: s => return (.list (item :: done).reverse, s)
    | ',' :: s => readItems fuel (item :: done) s
    | _ => none

/-- Reads the members of an object up to its closing bracket. -/
def readMembers : Nat → List (String × Json) → List Char → Option (Json × List Char)
  | 0, _, _ => none
  | fuel + 1, done, s => do
    let '"' :: s := skipBlanks s | none
    let (name, s) ← readString none [] s
    let ':' :: s := skipBlanks s | none
    let (value, s) ← readValue fuel s
    let done := putMember done (String.ofList name) value
    match skipBlanks s with
    | '\x7d' :: s => return (.object done, s)
    | ',' :: s => readMembers fuel done s
    | _ => none

end

/-- The value that a text denotes as a whole. -/
def read? (s : String) : Option Json := do
  let (value, rest) ← readValue (s.length + 1) s.toList
  if (skipBlanks rest).isEmpty then some value else none

end SectionTimes.Json
