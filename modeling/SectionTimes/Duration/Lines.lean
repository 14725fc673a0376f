import SectionTimes.Text.Blank
import SectionTimes.Text.Search

/-!
# The duration lines of a report

Of the lines of a report only those are kept that hold the fixed words of a duration line.
Memory maps are left out: they have durations too, one for each process.  What is kept is read
through a view that cannot be changed.
-/

namespace SectionTimes

open Text

/-- Whether a line holds the words of a duration line and is not about a memory map. -/
def isDurationLine (line : String) : Bool :=
  !mentions line "SHOW MAP" &&
    (mentions line "was the duration of '" || mentions line "was the duration of dumpsys")

/-- The line without the carriage returns and line feeds at its end. -/
def withoutEnd (line : String) : String :=
  String.ofList (trimEnd (fun c => c = '\r' || c = '\n') line.toList)

/-- A view of the duration lines of one report, in their order. -/
structure DurationLines where
  toList : List String
  deriving DecidableEq, Repr

/-- What a cut through a sequence asks for: where it starts and stops, and how far one step goes.
A place that is left out is the outermost in the direction of the steps. -/
structure Cut where
  /-- The first place; a negative one counts from the end. -/
  start : Option Int
  /-- The place before which the cut ends. -/
  stop : Option Int
  /-- The distance between two places. -/
  step : Option Int
  deriving DecidableEq, Repr

/-- Why lines could not be had from a view. -/
inductive DurationLines.Failure where
  | noSuchPlace
  | zeroStep
  deriving DecidableEq, Repr

/-- The wording of a failure. -/
def DurationLines.Failure.message : DurationLines.Failure → String
  | .noSuchPlace => "tuple index out of range"
  | .zeroStep => "slice step cannot be zero"

namespace Cut

/-- A place of a cut through `length` elements, kept between `least` and `greatest`. -/
def settle (length least greatest place : Int) : Int :=
  let place := if place < 0 then place + length else place
  max least (min greatest place)

/-- The places that a cut through `length` elements takes, each as a distance from the first
element; none if the step is zero. -/
def places (c : Cut) (length : Nat) : List Int :=
  let n : Int := length
  let step := c.step.getD 1
  if 0 < step then
    let start := (c.start.map (settle n 0 n)).getD 0
    let stop := (c.stop.map (settle n 0 n)).getD n
    (List.range ((stop - start + step - 1) / step).toNat).map fun (i : Nat) => start + i * step
  else if step < 0 then
    let start := (c.start.map (settle n (-1) (n - 1))).getD (n - 1)
    let stop := (c.stop.map (settle n (-1) (n - 1))).getD (-1)
    (List.range ((start - stop - step - 1) / -step).toNat).map fun (i : Nat) => start + i * step
  else []

end Cut

namespace DurationLines

/-- Keeps the duration lines, without their ends. -/
def ofLines (lines : List String) : DurationLines :=
  ⟨(lines.map withoutEnd).filter isDurationLine⟩

/-- The number of lines. -/
def length (v : DurationLines) : Nat := v.toList.length

instance : Membership String DurationLines := ⟨fun v line => line ∈ v.toList⟩

instance (line : String) (v : DurationLines) : Decidable (line ∈ v) :=
  inferInstanceAs (Decidable (line ∈ v.toList))

/-- The line at a place; a negative place counts from the end. -/
def get (v : DurationLines) (place : Int) : Except Failure String :=
  let i := if place < 0 then place + v.length else place
  match (if i < 0 then none else v.toList[i.toNat]?) with
  | some line => .ok line
  | none => .error .noSuchPlace

/-- The lines at the places of a cut. -/
def slice (v : DurationLines) (c : Cut) : Except Failure (List String) :=
  if c.step = some 0 then .error .zeroStep
  else .ok ((c.places v.length).filterMap fun i => v.toList[i.toNat]?)

/-- A short description of a view. -/
def describe (v : DurationLines) : String := s!"BugReportDurationLines({v.length} lines)"

end DurationLines

end SectionTimes
