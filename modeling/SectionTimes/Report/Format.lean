import SectionTimes.Duration.Metric
import SectionTimes.Json.Printer
import SectionTimes.Number.Decimal

/-!
# Reports of a metric map

A metric map is reported as plain text, as JSON or as comma-separated values.  All three list the
metrics in ascending order of their keys.  Plain text and comma-separated values give the seconds
with three decimal places, JSON in their shortest form.
-/

namespace SectionTimes

open Text

/-- The formats of a report. -/
inductive Format where
  /-- One line for each metric: the key, a space and the seconds. -/
  | plain
  /-- One object whose members are the metrics. -/
  | json
  /-- Rows of comma-separated values below a heading. -/
  | csv
  deriving DecidableEq, Repr

/-- Strings joined with a separator between them. -/
def joined (separator : String) (parts : List String) : String := separator.intercalate parts

namespace Format

/-- The names by which formats are asked for. -/
def name : Format → String
  | .plain => "text"
  | .json => "json"
  | .csv => "csv"

/-- The formats, in the order in which they are offered. -/
def all : List Format := [.plain, .json, .csv]

/-- The format of a name. -/
def ofName? (name : String) : Option Format := all.find? fun f => f.name = name

/-- The message for a name that no format has. -/
def unknownMessage (name : String) : String := "Unknown output format: " ++ name

/-- The plain text of a metric map. -/
def plainText (metrics : MetricMap) : String :=
  joined "\n" (metrics.sorted.map fun (key, seconds) => key ++ " " ++ seconds.toMillis)

/-- A metric map as JSON. -/
def jsonText (metrics : MetricMap) : String :=
  (Json.object (metrics.sorted.map fun (key, seconds) => (key, .float seconds))).indented

/-- Whether a character puts its field between quotes.  Not all writers of comma-separated values
quote a carriage return, which readers take as it is or as the end of a row. -/
def needsQuotes (quoteReturns : Bool) (c : Char) : Bool :=
  c = ',' || c = '"' || c = '\n' || (quoteReturns && c = '\r')

/-- One field: between quotes, with every quote inside doubled, where it could be misread. -/
def csvField (quoteReturns : Bool) (s : List Char) : List Char :=
  if s.any (needsQuotes quoteReturns) then
    '"' :: s.flatMap (fun c => if c = '"' then ['"', '"'] else [c]) ++ ['"']
  else s

/-- One row of two fields. -/
def csvRow (quoteReturns : Bool) (first second : String) : String :=
  String.ofList
    (csvField quoteReturns first.toList ++ ',' :: csvField quoteReturns second.toList)

/-- A metric map as comma-separated values. -/
def csvText (quoteReturns : Bool) (metrics : MetricMap) : String :=
  joined "\n"
    (csvRow quoteReturns "key" "seconds" ::
      metrics.sorted.map fun (key, seconds) => csvRow quoteReturns key seconds.toMillis)

/-- The report of a metric map.  A carriage return alone has no quotes. -/
def render : Format → MetricMap → String
  | .plain => plainText
  | .json => jsonText
  | .csv => csvText false

end Format

end SectionTimes
