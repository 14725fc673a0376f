import SectionTimes.Data.Table
import SectionTimes.Duration.Line
import SectionTimes.Text.LetterCase

/-!
# Duration metrics

A metric is the time of one section or service under the key by which it is reported.  Sections
and services have keys with different beginnings.  In the metric map the last metric of a key
counts.
-/

namespace SectionTimes

open Text

/-- What a metric is about. -/
structure Kind where
  /-- The word for it in reports. -/
  name : String
  deriving DecidableEq, Repr

/-- A section of the report itself. -/
def Kind.dumpstate : Kind := ⟨"dumpstate"⟩

/-- A system service that the report asks. -/
def Kind.dumpsys : Kind := ⟨"dumpsys"⟩

/-- The time that one section or service took. -/
structure Metric where
  /-- The name under which the time is reported. -/
  key : String
  /-- The section or service. -/
  name : String
  seconds : Binary64
  kind : Kind
  deriving DecidableEq, Repr

/-- The metrics of a report by their keys. -/
abbrev MetricMap := Table String Binary64

namespace Metric

/-- A section name as a part of a key: in lower case, with a hyphen for each space. -/
def sectionSlug (name : List Char) : List Char :=
  (lower name).map fun c => if c = ' ' then '-' else c

/-- The key of a section. -/
def sectionKey (name : String) : String :=
  "bugreport-duration-" ++ String.ofList (sectionSlug name.toList)

/-- The key of a service. -/
def serviceKey (name : String) : String := "bugreport-dumpsys-duration-" ++ name

/-- The metric of a section. -/
def ofSection (r : Duration.Reading) : Metric where
  key := sectionKey (String.ofList r.name)
  name := String.ofList r.name
  seconds := r.amount.seconds
  kind := .dumpstate

/-- The metric of a service. -/
def ofService (r : Duration.Reading) : Metric where
  key := serviceKey (String.ofList r.name)
  name := String.ofList r.name
  seconds := r.amount.seconds
  kind := .dumpsys

/-- The metric that a line tells. -/
def ofLine? (line : String) : Option Metric :=
  match Duration.readSection line.toList with
  | some r => some (ofSection r)
  | none => (Duration.readService line.toList).map ofService

/-- The metrics of those lines that tell one, in the order of the lines. -/
def ofLines (lines : List String) : List Metric := lines.filterMap ofLine?

end Metric

/-- The times of metrics by their keys; of several metrics with one key the last counts. -/
def MetricMap.ofMetrics (metrics : List Metric) : MetricMap :=
  Table.ofList (metrics.map fun m => (m.key, m.seconds))

end SectionTimes
