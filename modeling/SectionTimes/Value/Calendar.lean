import SectionTimes.Number.Decimal

/-!
# Dates and moments

A date of the calendar, and a time of day on it, perhaps with its distance from universal time.
-/

namespace SectionTimes

/-- A date. -/
structure Date where
  /-- The year, from 1 to 9999. -/
  year : Nat
  /-- The month, from 1 to 12. -/
  month : Nat
  day : Nat
  deriving DecidableEq, Repr

/-- A time of day on a date. -/
structure Moment where
  date : Date
  /-- The hour, from 0 to 23. -/
  hour : Nat
  /-- The minute, from 0 to 59. -/
  minute : Nat
  /-- The second, from 0 to 59. -/
  second : Nat
  /-- The millionths of a second. -/
  micro : Nat
  /-- How many minutes the time is ahead of universal time, if that is known. -/
  ahead : Option Int
  deriving DecidableEq, Repr

/-- Why numbers denote no date or moment. -/
inductive CalendarFault where
  | year (year : Nat)
  | month
  | day
  | hour
  | minute
  | second
  /-- The time is a day or more from universal time. -/
  | ahead (minutes : Int)
  deriving DecidableEq, Repr

namespace Date

/-- Whether a year has a leap day. -/
def isLeap (year : Nat) : Bool := year % 4 = 0 && (year % 100 != 0 || year % 400 = 0)

/-- The number of days of a month. -/
def daysOf (year month : Nat) : Nat :=
  if month = 2 then (if isLeap year then 29 else 28)
  else if month ∈ [4, 6, 9, 11] then 30
  else 31

/-- The date of a year, a month and a day. -/
def check (year month day : Nat) : Except CalendarFault Date :=
  if year < 1 ∨ 9999 < year then .error (.year year)
  else if month < 1 ∨ 12 < month then .error .month
  else if day < 1 ∨ daysOf year month < day then .error .day
  else .ok ⟨year, month, day⟩

/-- The number of days from the first day of the year 1 to a date. -/
def dayNumber (d : Date) : Nat :=
  let before := d.year - 1
  let months := (List.range (d.month - 1)).foldl (fun n m => n + daysOf d.year (m + 1)) 0
  before * 365 + before / 4 - before / 100 + before / 400 + months + (d.day - 1)

/-- A number of at least `width` digits. -/
def digits (width n : Nat) : String := String.ofList (padStart '0' width (natDigits n))

/-- The date in digits: year, month and day. -/
def text (d : Date) : String := digits 4 d.year ++ "-" ++ digits 2 d.month ++ "-" ++ digits 2 d.day

end Date

namespace Moment

/-- The moment of a date and a time of day. -/
def check (year month day hour minute second micro : Nat) (ahead : Option Int) :
    Except CalendarFault Moment := do
  match ahead with
  | some minutes => if 24 * 60 ≤ minutes.natAbs then throw (.ahead minutes)
  | none => pure ()
  let date ← Date.check year month day
  if 23 < hour then throw .hour
  if 59 < minute then throw .minute
  if 59 < second then throw .second
  return ⟨date, hour, minute, second, micro, ahead⟩

/-- The millionths of a second from the first day of the year 1 to a moment, for its own zone. -/
def localMicros (m : Moment) : Nat :=
  (((m.date.dayNumber * 24 + m.hour) * 60 + m.minute) * 60 + m.second) * 1000000 + m.micro

/-- Whether two moments are the same: those with a distance from universal time are if they are
the same in universal time, and no other is the same as one with such a distance. -/
def same (m n : Moment) : Bool :=
  match m.ahead, n.ahead with
  | none, none => m == n
  | some a, some b =>
    m.localMicros - a * 60000000 == (n.localMicros - b * 60000000 : Int)
  | _, _ => false

/-- The distance from universal time: a sign, hours and minutes. -/
def aheadText (minutes : Int) : String :=
  (if minutes < 0 then "-" else "+") ++ Date.digits 2 (minutes.natAbs / 60) ++ ":" ++
    Date.digits 2 (minutes.natAbs % 60)

/-- The moment in digits: its date, its time of day and its distance from universal time. -/
def text (m : Moment) : String :=
  m.date.text ++ " " ++ Date.digits 2 m.hour ++ ":" ++ Date.digits 2 m.minute ++ ":" ++
    Date.digits 2 m.second ++ (if m.micro = 0 then "" else "." ++ Date.digits 6 m.micro) ++
    ((m.ahead.map aheadText).getD "")

end Moment

/-- A span of minutes by its days and seconds; only the days can be negative. -/
def spanText (minutes : Int) : String :=
  let seconds := minutes * 60
  let days := seconds.fdiv 86400
  let rest := seconds.fmod 86400
  let parts :=
    (if days = 0 then [] else [s!"days={days}"]) ++ (if rest = 0 then [] else [s!"seconds={rest}"])
  "datetime.timedelta(" ++ (if parts.isEmpty then "0" else ", ".intercalate parts) ++ ")"

/-- The wording of a fault. -/
def CalendarFault.message : CalendarFault → String
  | .year n => s!"year {n} is out of range"
  | .month => "month must be in 1..12"
  | .day => "day is out of range for month"
  | .hour => "hour must be in 0..23"
  | .minute => "minute must be in 0..59"
  | .second => "second must be in 0..59"
  | .ahead n =>
    "offset must be a timedelta strictly between -timedelta(hours=24) and " ++
      "timedelta(hours=24), not " ++ spanText n ++ "."

end SectionTimes
