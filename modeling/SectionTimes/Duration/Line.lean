import SectionTimes.Duration.Amount
import SectionTimes.Text.Blank
import SectionTimes.Text.Search

/-!
# Duration lines

A bugreport names the time that each of its parts took, in lines of two forms:

    ------ 44.619s was the duration of 'DUMPSYS' ------
    --------- 0.051s was the duration of dumpsys meminfo, ending at: 2023-04-27 23:50:35

The first form closes a section of the report, whose name stands in quotes and may hold quotes
itself.  The second closes one system service.  Blanks around a line do not count, and no name
goes over a line feed.
-/

namespace SectionTimes.Duration

open Text

/-- What a duration line tells: the time taken, and by what. -/
structure Reading where
  amount : Amount
  /-- The section or service that took it. -/
  name : List Char
  deriving DecidableEq, Repr

/-- The words between the time and the name of a section. -/
def sectionWords : List Char := "s was the duration of '".toList

/-- The words between the time and the name of a service. -/
def serviceWords : List Char := "s was the duration of dumpsys ".toList

/-- The words between the name of a service and the time at which it ended. -/
def endingWords : List Char := ", ending at: ".toList

/-- A rule of dashes. -/
def rule (dashes : Nat) : List Char := List.replicate dashes '-'

/-- Reads a rule of dashes, blanks, an amount and fixed words, and gives the amount and what
stands behind the words. -/
def readHead (dashes : Nat) (words s : List Char) : Option (Amount × List Char) := do
  let s ← after? (rule dashes) s
  if (s.takeWhile isBlank).isEmpty then none
  let (amount, s) ← Amount.read? (s.dropWhile isBlank)
  return (amount, ← after? words s)

/-- Reads what stands behind the opening quote of a section line: the name, the closing quote,
blanks and a rule. -/
def readSectionTail (s : List Char) : Option (List Char) := do
  let s ← before? (rule 6) s
  if (trimEnd isBlank s).length = s.length then none
  let name ← before? ['\''] (trimEnd isBlank s)
  if '\n' ∈ name then none else name

/-- Reads what stands behind the words of a service line: the shortest name that is not empty
and is followed by the ending words. -/
def readServiceTail : List Char → Option (List Char)
  | [] => none
  | c :: s => if '\n' ∈ c :: s then none else (cutAt endingWords s).map fun (name, _) => c :: name

/-- Reads a line that closes a section. -/
def readSection (line : List Char) : Option Reading := do
  let (amount, s) ← readHead 6 sectionWords (trim line)
  return ⟨amount, ← readSectionTail s⟩

/-- Reads a line that closes a service. -/
def readService (line : List Char) : Option Reading := do
  let (amount, s) ← readHead 9 serviceWords (trim line)
  return ⟨amount, ← readServiceTail s⟩

/-- The name of the section that a line closes. -/
def sectionName? (line : String) : Option String :=
  (readSection line.toList).map fun r => String.ofList r.name

/-- The name of the service that a line closes. -/
def serviceName? (line : String) : Option String :=
  (readService line.toList).map fun r => String.ofList r.name

/-- The time that a line tells, in seconds. -/
def seconds? (line : String) : Option Binary64 :=
  ((readSection line.toList).orElse fun _ => readService line.toList).map fun r => r.amount.seconds

/-- The time reported for a line that tells none. -/
def invalidSeconds : Binary64 := .ofDecimal true 1 0

/-- The time that a line tells, in seconds, or minus one. -/
def secondsOrInvalid (line : String) : Binary64 := (seconds? line).getD invalidSeconds

end SectionTimes.Duration
