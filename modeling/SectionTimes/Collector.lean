import SectionTimes.Bugreport.Reading
import SectionTimes.Duration.Lines
import SectionTimes.Duration.Metric

/-!
# Collecting durations

A collector reads the durations from the bugreports of one folder, from the newest unless another
is named.
-/

namespace SectionTimes

open Bugreport

/-- Where a device keeps its bugreports. -/
def deviceFolder : String := "/data/user_de/0/com.android.shell/files/bugreports/"

/-- A collector, by the folder that it reads. -/
structure Collector where
  folder : String
  deriving DecidableEq, Repr

namespace Collector

/-- The collector of a device's own bugreports. -/
def onDevice : Collector := ⟨deviceFolder⟩

/-- The note with which collecting starts. -/
def startMessage (folder : String) : String :=
  "Started collecting bugreport durations from " ++ folder

/-- The note with which collecting stops. -/
def stopMessage : String := "Stopped collecting bugreport durations"

/-- The duration lines of the report in an archive. -/
def durationLines (c : Collector) (files : Files) (archive : String) : Reading DurationLines := do
  return DurationLines.ofLines (← lines files c.folder archive)

/-- The metrics of the report in an archive. -/
def metricsOf (c : Collector) (files : Files) (archive : String) : Reading (List Metric) := do
  let found ← c.durationLines files archive
  let metrics := Metric.ofLines found.toList
  Logged.note .info
    (s!"Parsed {metrics.length} duration metric(s) from {archive} " ++
      s!"({found.length} candidate lines)")
  return metrics

/-- The metrics of the report in an archive, or in the newest one. -/
def metrics (c : Collector) (files : Files) (archive : Option String) : Reading (List Metric) := do
  match archive with
  | some archive => c.metricsOf files archive
  | none => c.metricsOf files (← newest files c.folder)

/-- The metric map of the newest report; it is empty, and an error is noted, if there is none
that can be read. -/
def collect (c : Collector) (files : Files) : Reading MetricMap :=
  tryCatch (do return .ofMetrics (← c.metrics files none)) fun e =>
    if e.isExpected then do
      Logged.note .error ("Unable to collect bugreport durations: " ++ e.message)
      return .empty
    else throw e

end Collector

end SectionTimes
