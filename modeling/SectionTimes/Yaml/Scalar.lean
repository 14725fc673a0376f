import SectionTimes.Value.Basic
import SectionTimes.Yaml.Token

/-!
# Plain scalars

A scalar without quotes may denote a truth value, a number, a date, a moment or nothing; whatever
has none of their forms is a text.  Integers have four bases, and numbers of hours, minutes and
seconds have colons between them.  Underscores may stand among the digits.
-/

namespace SectionTimes.Yaml

open Numeral (isAsciiDigit)

/-- Whether a character is a digit or an underscore. -/
def isDigitOrLine (c : Char) : Bool := isAsciiDigit c || c = '_'

/-- A text without its underscores. -/
def withoutLines (s : List Char) : List Char := s.filter (· ≠ '_')

/-- Whether a text is an exponent with its sign, or nothing. -/
def isExponent : List Char → Bool
  | [] => true
  | e :: sign :: digits =>
    (e = 'e' || e = 'E') && (sign = '+' || sign = '-') && !digits.isEmpty && digits.all isAsciiDigit
  | _ => false

/-! ## Numbers -/

/-- The parts behind colons at the beginning of a text, each below sixty, and what follows. -/
def sixties : Nat → List Char → Option (List Nat × List Char)
  | 0, s => some ([], s)
  | fuel + 1, s =>
    match s with
    | ':' :: s => do
      let digits := s.takeWhile isAsciiDigit
      let n := Text.digitsValue digits
      if digits.isEmpty || 2 < digits.length || 59 < n then none
      let (others, rest) ← sixties fuel (s.dropWhile isAsciiDigit)
      return (n :: others, rest)
    | s => some ([], s)

/-- An integer in a base, given by the digits that it may have. -/
def inBase (negative : Bool) (base : Nat) (value : Char → Nat) (s : List Char) :
    Except Fault Value :=
  let digits := withoutLines s
  if digits.isEmpty then .error (.noDigits base)
  else .ok (.int (Binary64.signed negative (digits.foldl (fun n c => base * n + value c) 0)))

/-- The value of a hexadecimal digit; zero for any other character. -/
def hexValue (c : Char) : Nat := (hexValue? c).getD 0

/-- An integer in base ten, in sixties where further parts are given. -/
def decimalInt (negative : Bool) (whole : List Char) (parts : List Nat) : Except Fault Value :=
  let digits := withoutLines whole
  if Numeral.maxDigits < digits.length then .error (.tooManyDigits digits.length)
  else
    .ok (.int (Binary64.signed negative
      (parts.foldl (fun n part => 60 * n + part) (Text.digitsValue digits))))

/-- The integer that a text denotes behind its sign, if it has the form of one. -/
def readInteger (negative : Bool) (s : List Char) : Option (Except Fault Value) :=
  match s with
  | '0' :: 'b' :: digits =>
    if !digits.isEmpty && digits.all (fun c => c = '0' || c = '1' || c = '_') then
      some (inBase negative 2 hexValue digits)
    else none
  | '0' :: 'x' :: digits =>
    if !digits.isEmpty && digits.all (fun c => (hexValue? c).isSome || c = '_') then
      some (inBase negative 16 hexValue digits)
    else none
  | '0' :: digits =>
    if digits.all fun c => ('0' ≤ c && c ≤ '7') || c = '_' then
      some (inBase negative 8 hexValue ('0' :: digits))
    else none
  | s => do
    let whole := s.takeWhile isDigitOrLine
    if !(s.head?.any isAsciiDigit) then none
    let (parts, rest) ← sixties s.length (s.dropWhile isDigitOrLine)
    if rest.isEmpty then some (decimalInt negative whole parts) else none

/-- A number in sixties: its parts, of which only the last has a fraction.  There is none if a
power of sixty becomes infinite. -/
def sumSixties (negative : Bool) (parts : List Binary64) : Except Fault Value := do
  let (sum, _) ← parts.reverse.foldlM
    (fun (sum, base) part => do
      let some power := Binary64.ofInt? base | throw Fault.tooLarge
      return (sum + part * power, base * 60))
    (Binary64.zero, (1 : Int))
  return .float (if negative then -sum else sum)

/-- The number that digits with a point denote. -/
def binaryOf (negative : Bool) (s : List Char) : Value :=
  let x := (Numeral.readBinary (withoutLines s)).getD .nan
  .float (if negative then -x else x)

/-- The floating-point number that a text denotes behind its sign, if it has the form of one. -/
def readFloat (signs : Bool × Bool) (s : List Char) : Option (Except Fault Value) := do
  let (isSigned, negative) := signs
  if s ∈ [".inf".toList, ".Inf".toList, ".INF".toList] then
    return .ok (.float (.infinite negative))
  if !isSigned && s ∈ [".nan".toList, ".NaN".toList, ".NAN".toList] then return .ok (.float .nan)
  let whole := s.takeWhile isDigitOrLine
  match s with
  | '.' :: c :: rest =>
    if !isSigned && isAsciiDigit c && isExponent (rest.dropWhile isDigitOrLine) then
      return .ok (binaryOf negative s)
    else none
  | _ =>
    if !(s.head?.any isAsciiDigit) then none
    match s.dropWhile isDigitOrLine with
    | '.' :: rest =>
      if isExponent (rest.dropWhile isDigitOrLine) then return .ok (binaryOf negative s) else none
    | rest =>
      let (parts, rest) ← sixties s.length rest
      match parts.getLast?, rest with
      | some last, '.' :: fraction =>
        if !fraction.all isDigitOrLine then none
        let binary (s : List Char) := (Numeral.readBinary (withoutLines s)).getD .nan
        let natural (n : Nat) := (Binary64.ofInt? n).getD .nan
        let ending := binary ((Nat.toDigits 10 last) ++ '.' :: fraction)
        return sumSixties negative (binary whole :: parts.dropLast.map natural ++ [ending])
      | _, _ => none

/-! ## Dates -/

/-- Takes a run of digits whose length has to lie between two bounds. -/
def digitRun (least greatest : Nat) (s : List Char) : Option (Nat × List Char) :=
  let digits := s.takeWhile isAsciiDigit
  if least ≤ digits.length ∧ digits.length ≤ greatest then
    some (Text.digitsValue digits, s.dropWhile isAsciiDigit)
  else none

/-- Takes a character. -/
def expect (c : Char) : List Char → Option (List Char)
  | d :: s => if d = c then some s else none
  | [] => none

/-- Reads a distance from universal time in minutes; nothing is no distance. -/
def readAhead (s : List Char) : Option (Option Int) :=
  match s.dropWhile (fun c => c = ' ' || c = '\t') with
  | [] => if s.isEmpty then some none else none
  | ['Z'] => some (some 0)
  | c :: rest => do
    if c ≠ '+' ∧ c ≠ '-' then none
    let (hours, rest) ← digitRun 1 2 rest
    let (minutes, rest) ← match rest with
      | ':' :: rest => digitRun 2 2 rest
      | rest => some (0, rest)
    if rest.isEmpty then return some (Binary64.signed (c = '-') (60 * hours + minutes)) else none

/-- The millionths of a second that the digits of a fraction denote; further digits are cut off. -/
def microOf (digits : List Char) : Nat :=
  Text.digitsValue (padEnd '0' 6 (digits.take 6))

/-- The date or moment that a text denotes, if it has the form of one. -/
def readTimestamp (s : List Char) : Option (Except Fault Value) := do
  let (year, s₁) ← digitRun 4 4 s
  let (month, s₂) ← digitRun 1 2 (← expect '-' s₁)
  let (day, rest) ← digitRun 1 2 (← expect '-' s₂)
  if rest.isEmpty then
    if s.length = 10 then
      return ((Date.check year month day).map Value.date).mapError Fault.calendar
    else none
  let time ← match rest with
    | 'T' :: time => some time
    | 't' :: time => some time
    | c :: time =>
      if c = ' ' || c = '\t' then some (time.dropWhile fun c => c = ' ' || c = '\t') else none
    | [] => none
  let (hour, rest) ← digitRun 1 2 time
  let (minute, rest) ← digitRun 2 2 (← expect ':' rest)
  let (second, rest) ← digitRun 2 2 (← expect ':' rest)
  let (fraction, rest) := match rest with
    | '.' :: rest => (rest.takeWhile isAsciiDigit, rest.dropWhile isAsciiDigit)
    | rest => ([], rest)
  let ahead ← readAhead rest
  return ((Moment.check year month day hour minute second (microOf fraction) ahead).map
    Value.moment).mapError Fault.calendar

/-! ## All forms -/

/-- The sign at the beginning of a text: whether there is one, and whether it is a minus. -/
def signOf : List Char → (Bool × Bool) × List Char
  | '-' :: s => ((true, true), s)
  | '+' :: s => ((true, false), s)
  | s => ((false, false), s)

/-- The words for true. -/
def trueWords : List String :=
  ["yes", "Yes", "YES", "true", "True", "TRUE", "on", "On", "ON"]

/-- The words for false. -/
def falseWords : List String :=
  ["no", "No", "NO", "false", "False", "FALSE", "off", "Off", "OFF"]

/-- The words for nothing. -/
def nullWords : List String := ["", "~", "null", "Null", "NULL"]

/-- The value of a plain scalar.  The marks for a default value and for merging have none. -/
def plainValue (s : List Char) : Except Fault Value :=
  let word := String.ofList s
  if word ∈ trueWords then .ok (.bool true)
  else if word ∈ falseWords then .ok (.bool false)
  else if word ∈ nullWords then .ok .null
  else if word = "=" || word = "<<" then .error .malformed
  else
    let (signs, body) := signOf s
    match readFloat signs body with
    | some x => x
    | none =>
      match readInteger signs.2 body with
      | some i => i
      | none =>
        match readTimestamp s with
        | some t => t
        | none => .ok (.text word)

end SectionTimes.Yaml
