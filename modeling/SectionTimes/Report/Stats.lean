import SectionTimes.Data.RunSort
import SectionTimes.Report.Format

/-!
# Statistics of a report

The number of metrics and the time of each kind, and the slowest sections.  Every metric counts
for its kind; of several metrics with one key only the last counts among the slowest sections.
-/

namespace SectionTimes

/-- The statistics of a list of metrics. -/
structure Stats where
  total : Nat
  /-- The number of metrics of each kind, the largest first. -/
  counts : List (Kind × Nat)
  /-- The seconds of each kind, rounded to three places, in ascending order of the kinds. -/
  seconds : List (Kind × Binary64)
  /-- The slowest sections: their keys and seconds, the slowest first. -/
  slowest : List (String × Binary64)
  deriving DecidableEq, Repr

namespace Stats

/-- The number of slowest sections listed unless another is asked for. -/
def defaultTop : Int := 10

/-- The number of metrics of each kind, in the order in which the kinds first come. -/
def countByKind (metrics : List Metric) : Table Kind Nat :=
  metrics.foldl (fun t m => t.put m.kind ((t.find? m.kind).getD 0 + 1)) Table.empty

/-- The seconds of each kind, summed in the order of the metrics. -/
def sumByKind (metrics : List Metric) : Table Kind Binary64 :=
  metrics.foldl (fun t m => t.put m.kind ((t.find? m.kind).getD .zero + m.seconds)) Table.empty

/-- The seconds of each key, of several metrics with one key those of the last. -/
def lastByKey (metrics : List Metric) : MetricMap :=
  metrics.foldl (fun t m => t.put m.key m.seconds) Table.empty

/-- Whether one section is listed before another: the slower one is, and of two with the same
seconds the one whose key is less. -/
def slower (a b : String × Binary64) : Bool :=
  b.2.less a.2 || a.2.same b.2 && decide (a.1 < b.1)

/-- All sections of a table, the slowest first.  Where some seconds are no number there is
no such order, and what the list is then is left to sorting by runs. -/
def ranked (byKey : MetricMap) : List (String × Binary64) :=
  if byKey.entries.all fun e => e.2.same e.2 then sortedBy slower byKey.entries
  else RunSort.sorted slower byKey.entries

/-- The statistics of metrics with the `top` slowest sections; none, if `top` is not positive. -/
def ofMetrics (metrics : List Metric) (top : Int) : Stats where
  total := ((countByKind metrics).entries.map Prod.snd).foldr (· + ·) 0
  counts := sortedBy (fun a b => decide (b.2 < a.2)) (countByKind metrics).entries
  seconds :=
    (sortedBy (fun a b => decide (a.1.name < b.1.name)) (sumByKind metrics).entries).map
      fun (kind, seconds) => (kind, seconds.roundPlaces 3)
  slowest := if 0 < top then (ranked (lastByKey metrics)).take top.toNat else []

/-- The seconds of a kind. -/
def secondsOf (s : Stats) (kind : Kind) : Binary64 :=
  ((s.seconds.find? fun e => e.1 = kind).map Prod.snd).getD .zero

/-- A text moved to the right end of a column. -/
def alignRight (width : Nat) (s : List Char) : String := String.ofList (padStart ' ' width s)

/-- The line of a kind: its name, its number of metrics and its seconds. -/
def kindLine (s : Stats) (kind : Kind) (count : Nat) : String :=
  "  " ++ String.ofList (padEnd ' ' 10 kind.name.toList) ++ " " ++
    alignRight 5 (natDigits count) ++ "  " ++ alignRight 10 ((s.secondsOf kind).fixed 3) ++ "s"

/-- The line of a slow section: its seconds and its key. -/
def slowLine (key : String) (seconds : Binary64) : String :=
  "  " ++ alignRight 10 (seconds.fixed 3) ++ "s  " ++ key

/-- The statistics as plain text. -/
def plainText (s : Stats) : String :=
  let slow :=
    if s.slowest.isEmpty then ["No duration sections."]
    else
      s!"Slowest sections ({s.slowest.length}):" ::
        s.slowest.map fun (key, seconds) => slowLine key seconds
  joined "\n"
    ([s!"Total sections: {s.total}", "", "Sections by kind:"] ++
      s.counts.map (fun (kind, count) => s.kindLine kind count) ++ [""] ++ slow)

/-- The statistics as JSON. -/
def toJson (s : Stats) : Json :=
  .object
    [("total_sections", .int s.total),
     ("section_counts", .object (s.counts.map fun (kind, count) => (kind.name, .int count))),
     ("total_seconds", .object (s.seconds.map fun (kind, seconds) => (kind.name, .float seconds))),
     ("slowest", .list (s.slowest.map fun (key, seconds) =>
        .object [("key", .text key), ("seconds", .float seconds)]))]

/-- The text of the statistics as JSON. -/
def jsonText (s : Stats) : String := s.toJson.indented

end Stats

end SectionTimes
