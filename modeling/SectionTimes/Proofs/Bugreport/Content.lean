import SectionTimes.Proofs.Bugreport.Reading
import SectionTimes.Proofs.Bytes.Utf8
import SectionTimes.Proofs.Text.LineEnd
import SectionTimes.Proofs.Text.Trim

/-!
# Reports as bytes

What is found in a report is settled by the bytes of its entry.  A line end divides them: what
stands before it and what stands behind it is read as if each were a report of its own, whatever
bytes there are, and whether the line end is a line feed, a carriage return or both together.
-/

namespace SectionTimes

namespace Bugreport

/-- The bytes of the report in an archive. -/
def content (files : Files) (folder archive : String) : Except ReadFailure (List UInt8) :=
  match files.content? (Path.join folder archive) with
  | none => .error (.noArchive (Path.join folder archive))
  | some bytes =>
    match Zip.Archive.ofBytes bytes with
    | .error e => .error (ofZipFailure (Path.join folder archive) e)
    | .ok zip =>
      match reportEntry? zip.names archive with
      | none => .error (.noEntry archive)
      | some entry => (zip.read entry).mapError (ofZipFailure (Path.join folder archive))

theorem outcome_lines_eq_map (files : Files) (folder archive : String) :
    (lines files folder archive).outcome = (content files folder archive).map linesOf := by
  rw [outcome_lines]
  unfold content
  cases files.content? (Path.join folder archive) with
  | none => rfl
  | some bytes =>
    dsimp only
    cases Zip.Archive.ofBytes bytes with
    | error e => rfl
    | ok zip =>
      dsimp only
      cases reportEntry? zip.names archive with
      | none => rfl
      | some entry =>
        dsimp only
        cases zip.read entry with
        | error e => rfl
        | ok bytes => rfl

/-- What ends a line of a report. -/
inductive LineEnd where
  | lineFeed
  | carriageReturn
  | both
  deriving DecidableEq, Repr

/-- The bytes of a line end. -/
def LineEnd.bytes : LineEnd → List UInt8
  | .lineFeed => [0x0A]
  | .carriageReturn => [0x0D]
  | .both => [0x0D, 0x0A]

end Bugreport

open Bugreport

/-- The metrics of a report with these bytes. -/
def Metric.ofContent (content : List UInt8) : List Metric := ofReport (linesOf content)

theorem Collector.outcome_metricsOf_eq_map (c : Collector) (files : Files) (archive : String) :
    (c.metricsOf files archive).outcome =
      (content files c.folder archive).map Metric.ofContent := by
  rw [outcome_metricsOf, outcome_lines_eq_map]
  cases content files c.folder archive with
  | error e => rfl
  | ok bytes => rfl

namespace Metric

/-- The metric of a line that is kept. -/
def ofKept? (line : List Char) : Option Metric :=
  let line := withoutEnd (String.ofList line)
  if isDurationLine line then ofLine? line else none

theorem ofContent_eq (content : List UInt8) :
    ofContent content = (Text.entryLines (Utf8.decode content)).filterMap ofKept? := by
  unfold ofContent ofReport ofLines DurationLines.ofLines linesOf
  rw [List.filterMap_filter, List.filterMap_map, List.filterMap_map]
  refine List.filterMap_congr fun line _ => ?_
  simp only [Function.comp_apply, ofKept?]

theorem ofKept?_nil : ofKept? [] = none := by decide

theorem ofKept?_lineFeed (line : List Char) : ofKept? (line ++ ['\n']) = ofKept? line := by
  have hend : withoutEnd (String.ofList (line ++ ['\n'])) = withoutEnd (String.ofList line) := by
    unfold withoutEnd
    rw [String.toList_ofList, String.toList_ofList, Text.trimEnd_append (by simp)]
  unfold ofKept?
  rw [hend]

/-- A byte that ends lines divides the metrics. -/
theorem ofContent_append_cons {b : UInt8} (hb : b = 0x0A ∨ b = 0x0D) (before behind : List UInt8) :
    ofContent (before ++ b :: behind) = ofContent before ++ ofContent behind := by
  have hascii : b.toNat < 0x80 := by
    rcases hb with rfl | rfl <;> decide
  have hends : Text.endsLine (Char.ofNat b.toNat) = true := by
    rcases hb with rfl | rfl <;> rfl
  simp only [ofContent_eq]
  rw [Utf8.decode_append_ascii before behind hascii,
    Text.filterMap_entryLines_append ofKept?_nil ofKept?_lineFeed hends]

theorem ofContent_nil : ofContent [] = [] := rfl

/-- A line end divides the metrics. -/
theorem ofContent_append (before behind : List UInt8) (e : LineEnd) :
    ofContent (before ++ e.bytes ++ behind) = ofContent before ++ ofContent behind := by
  rw [List.append_assoc]
  cases e with
  | lineFeed => exact ofContent_append_cons (Or.inl rfl) before behind
  | carriageReturn => exact ofContent_append_cons (Or.inr rfl) before behind
  | both =>
    -- between the carriage return and the line feed there is nothing
    have hbytes : LineEnd.both.bytes ++ behind = 0x0D :: ([] ++ 0x0A :: behind) := rfl
    rw [hbytes, ofContent_append_cons (Or.inr rfl), ofContent_append_cons (Or.inl rfl),
      ofContent_nil, List.nil_append]

/-- Each line has its metrics, whatever ends it. -/
theorem ofContent_flatMap {α : Type} (line : α → List UInt8) (ending : α → LineEnd)
    (written : List α) (last : List UInt8) :
    ofContent ((written.flatMap fun a => line a ++ (ending a).bytes) ++ last) =
      (written.flatMap fun a => ofContent (line a)) ++ ofContent last := by
  induction written with
  | nil => rfl
  | cons a written ih =>
    rw [List.flatMap_cons, List.flatMap_cons, List.append_assoc (line a ++ _), ofContent_append, ih,
      List.append_assoc]

end Metric

/-- The metrics of an archive are those of the bytes of its report, line by line: what stands in
a line changes the metrics of no other line, and it makes no difference what ends the lines. -/
theorem metrics_line_by_line :
    (∀ (c : Collector) (files : Files) (archive : String),
      (c.metrics files (some archive)).outcome =
        (content files c.folder archive).map Metric.ofContent) ∧
    (∀ (before behind : List UInt8) (e : LineEnd),
      Metric.ofContent (before ++ e.bytes ++ behind) =
        Metric.ofContent before ++ Metric.ofContent behind) ∧
    (∀ (before line behind : List UInt8) (e e' : LineEnd),
      Metric.ofContent (before ++ e.bytes ++ (line ++ e'.bytes ++ behind)) =
        Metric.ofContent before ++ (Metric.ofContent line ++ Metric.ofContent behind)) ∧
    (∀ (written : List (List UInt8 × LineEnd)) (last : List UInt8),
      Metric.ofContent ((written.flatMap fun l => l.1 ++ l.2.bytes) ++ last) =
        (written.flatMap fun l => Metric.ofContent l.1) ++ Metric.ofContent last) ∧
    ∀ (written : List (List UInt8 × LineEnd × LineEnd)) (last : List UInt8),
      Metric.ofContent ((written.flatMap fun l => l.1 ++ l.2.1.bytes) ++ last) =
        Metric.ofContent ((written.flatMap fun l => l.1 ++ l.2.2.bytes) ++ last) := by
  refine ⟨Collector.outcome_metricsOf_eq_map, Metric.ofContent_append, ?_, ?_, ?_⟩
  · intro before line behind e e'
    rw [Metric.ofContent_append, Metric.ofContent_append]
  · intro written last
    rw [Metric.ofContent_flatMap]
  · intro written last
    rw [Metric.ofContent_flatMap, Metric.ofContent_flatMap]

end SectionTimes
