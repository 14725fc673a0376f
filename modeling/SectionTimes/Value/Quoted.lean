import SectionTimes.Text.Quoted
import SectionTimes.Value.Basic

/-!
# Values in messages

How a value is shown in a message: texts between quotes, lists and mappings between brackets,
dates by their parts.
-/

namespace SectionTimes.Value

open Text

/-- An integer in digits. -/
def intText (i : Int) : String := s!"{i}"

/-- A distance from universal time. -/
def zoneText (minutes : Int) : String :=
  if minutes = 0 then "datetime.timezone.utc"
  else "datetime.timezone(" ++ spanText minutes ++ ")"

/-- The parts of a moment, less the seconds and millionths at the end that are zero. -/
def momentParts (m : Moment) : List Nat :=
  let parts := [m.date.year, m.date.month, m.date.day, m.hour, m.minute]
  if m.micro ≠ 0 then parts ++ [m.second, m.micro]
  else if m.second ≠ 0 then parts ++ [m.second]
  else parts

/-- Parts with a comma between each two. -/
def listed (parts : List String) : String := ", ".intercalate parts

/-- The greatest number of digits with which an integer is shown. -/
def maxShownDigits : Nat := 4300

/-- What is said of an integer that has too many digits to be shown. -/
def tooLongMessage : String :=
  s!"Exceeds the limit ({maxShownDigits} digits) for integer string conversion; " ++
    "use sys.set_int_max_str_digits() to increase the limit"

mutual

/-- Whether a value can be shown: no integer in it may have too many digits.  However deep it is
nested, it is taken to be shown otherwise. -/
def isShowable : Value → Bool
  | .int i => i.natAbs < Nat.pow 10 maxShownDigits
  | .list items => areShowable items
  | .map entries => haveShowable entries
  | _ => true

/-- Whether all items of a list can be shown. -/
def areShowable : List Value → Bool
  | [] => true
  | item :: items => isShowable item && areShowable items

/-- Whether all entries of a mapping can be shown. -/
def haveShowable : List (Value × Value) → Bool
  | [] => true
  | (key, value) :: entries => isShowable key && isShowable value && haveShowable entries

end

mutual

/-- How a value is shown. -/
def quoted : Value → String
  | .null => "None"
  | .bool b => if b then "True" else "False"
  | .int i => intText i
  | .float x => x.toShortest
  | .text s => quote s
  | .halved codes => quoteCodes codes
  | .date d => "datetime.date(" ++ listed ([d.year, d.month, d.day].map fun n => s!"{n}") ++ ")"
  | .moment m =>
    let zone := m.ahead.toList.map fun minutes => "tzinfo=" ++ zoneText minutes
    "datetime.datetime(" ++ listed ((momentParts m).map (fun n => s!"{n}") ++ zone) ++ ")"
  | .list items => "[" ++ listed (quotedItems items) ++ "]"
  | .map entries => "\x7b" ++ listed (quotedEntries entries) ++ "\x7d"

/-- How the items of a list are shown. -/
def quotedItems : List Value → List String
  | [] => []
  | item :: items => quoted item :: quotedItems items

/-- How the entries of a mapping are shown. -/
def quotedEntries : List (Value × Value) → List String
  | [] => []
  | (key, value) :: entries => (quoted key ++ ": " ++ quoted value) :: quotedEntries entries

end

/-- A value as a part of a sentence: a text stands without quotes, a date in digits. -/
def plain (v : Value) : String :=
  match v with
  | .date d => d.text
  | .moment m => m.text
  | v => v.text?.getD v.quoted

end SectionTimes.Value
