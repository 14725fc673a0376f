import SectionTimes.Proofs.Data.Table
import SectionTimes.Proofs.Number.Fixed
import SectionTimes.Proofs.Text.SeparatedValues
import SectionTimes.Proofs.Text.Trim

/-!
# The comma-separated values of a metric map

A metric map is written row by row, each row with a line feed behind it, and the line feed at the
end is taken off.  Whatever the keys are, the rows are read back, and the line feed that is taken
off belongs to no field: the last field of the last row is a number, or the last word of the
heading.
-/

namespace SectionTimes.Format

open Text SeparatedValues

variable {metrics : MetricMap} {c : Char} {x : Binary64} {s : List Char} {quoteReturns : Bool}

/-- The rows that are written of a metric map, the heading first. -/
def csvRows (metrics : MetricMap) : List (String × String) :=
  ("key", "seconds") :: metrics.sorted.map fun e => (e.1, e.2.toMillis)

/-- The rows as they are written, each with a line feed behind it. -/
def csvWritten (quoteReturns : Bool) (metrics : MetricMap) : List Char :=
  (csvRows metrics).flatMap fun row => rowText quoteReturns row ++ ['\n']

theorem csvText_eq (quoteReturns : Bool) (metrics : MetricMap) :
    csvText quoteReturns metrics =
      joined "\n" ((csvRows metrics).map fun row => csvRow quoteReturns row.1 row.2) := by
  unfold csvText csvRows
  rw [List.map_cons, List.map_map]
  rfl

theorem toList_csvText (quoteReturns : Bool) (metrics : MetricMap) :
    (csvText quoteReturns metrics).toList =
      ['\n'].intercalate ((csvRows metrics).map (rowText quoteReturns)) := by
  rw [csvText_eq, joined, String.toList_intercalate, List.map_map]
  rfl

theorem rows?_csvText (quoteReturns : Bool) (metrics : MetricMap) :
    rows? (csvText quoteReturns metrics) =
      some (["key", "seconds"] :: metrics.sorted.map fun e => [e.1, e.2.toMillis]) := by
  rw [csvText_eq, csvRows, rows?_joined, List.map_cons, List.map_map]
  rfl

/-! ## The end of the text -/

theorem csvField_eq_self (hs : ∀ c ∈ s, needsQuotes quoteReturns c = false) :
    csvField quoteReturns s = s := by
  have hnone : ¬ s.any (needsQuotes quoteReturns) = true := by
    rw [List.any_eq_true]
    rintro ⟨c, hc, hquotes⟩
    rw [hs c hc] at hquotes
    cases hquotes
  exact if_neg hnone

/-- No second field of a row has a line feed, with quotes or without. -/
theorem lineFeed_not_mem_second {row : String × String} (h : row ∈ csvRows metrics) :
    '\n' ∉ csvField quoteReturns row.2.toList := by
  have hfeed : needsQuotes quoteReturns '\n' = true := by cases quoteReturns <;> rfl
  rcases List.mem_cons.1 h with rfl | h
  · cases quoteReturns <;> decide
  · obtain ⟨e, -, rfl⟩ := List.mem_map.1 h
    have hplain : ∀ c ∈ numberChars, needsQuotes quoteReturns c = false :=
      List.all_iff_forall_prop.1 (by cases quoteReturns <;> decide)
    have hchars := e.2.isFixedText_toMillis.mem_numberChars
    rw [csvField_eq_self fun c hc => hplain c (hchars c hc)]
    intro hmem
    exact absurd (hplain '\n' (hchars '\n' hmem)) (by simp [hfeed])

/-- Line feeds between rows and one at the end are line feeds behind all rows. -/
theorem intercalate_append_lineFeed (line : List Char) (lines : List (List Char)) :
    ['\n'].intercalate (line :: lines) ++ ['\n'] =
      (line :: lines).flatMap fun line => line ++ ['\n'] := by
  induction lines generalizing line with
  | nil => simp
  | cons next lines ih =>
    rw [List.intercalate_cons_cons, List.append_assoc, ih]
    rfl

theorem csvWritten_eq (quoteReturns : Bool) (metrics : MetricMap) :
    csvWritten quoteReturns metrics = (csvText quoteReturns metrics).toList ++ ['\n'] := by
  rw [toList_csvText, csvRows, List.map_cons, intercalate_append_lineFeed, ← List.map_cons,
    List.flatMap_map]
  rfl

/-- Behind the last comma of rows stands the second field of the last row. -/
theorem exists_intercalate_eq_append (row : String × String) (behind : List (String × String)) :
    ∃ s, ∃ last ∈ row :: behind,
      ['\n'].intercalate ((row :: behind).map (rowText quoteReturns)) =
        s ++ ',' :: csvField quoteReturns last.2.toList := by
  induction behind generalizing row with
  | nil =>
    refine ⟨csvField quoteReturns row.1.toList, row, List.mem_cons_self, ?_⟩
    rw [List.map_singleton, List.intercalate_singleton]
    exact String.toList_ofList
  | cons next behind ih =>
    obtain ⟨s, last, hlast, hs⟩ := ih next
    refine ⟨rowText quoteReturns row ++ ['\n'] ++ s, last, List.mem_cons_of_mem _ hlast, ?_⟩
    rw [List.map_cons, List.map_cons, List.intercalate_cons_cons, ← List.map_cons, hs,
      ← List.append_assoc]

/-- Taking off the line feeds at the end takes off the one behind the last row. -/
theorem trimEnd_csvWritten (quoteReturns : Bool) (metrics : MetricMap) :
    trimEnd (fun c => c = '\n') (csvWritten quoteReturns metrics) =
      (csvText quoteReturns metrics).toList := by
  obtain ⟨s, last, hlast, htext⟩ := exists_intercalate_eq_append ("key", "seconds")
    (metrics.sorted.map fun e => (e.1, e.2.toMillis))
  have htext : (csvText quoteReturns metrics).toList =
      s ++ ',' :: csvField quoteReturns last.2.toList :=
    (toList_csvText quoteReturns metrics).trans htext
  have hfeed : '\n' ∉ ',' :: csvField quoteReturns last.2.toList := by
    rw [List.mem_cons, not_or]
    exact ⟨by decide, lineFeed_not_mem_second hlast⟩
  rw [csvWritten_eq, trimEnd_append (by simp), htext, trimEnd_eq_rdropWhile,
    List.rdropWhile_eq_self_iff]
  intro hne hend
  have hmem := List.getLast_mem (List.cons_ne_nil ',' (csvField quoteReturns last.2.toList))
  rw [List.getLast_append_of_ne_nil _ (List.cons_ne_nil _ _), decide_eq_true_iff] at hend
  exact hfeed (hend ▸ hmem)

/-! ## The rows -/

theorem mem_keys_iff_of_csvText_eq {metrics' : MetricMap}
    (h : csvText quoteReturns metrics' = csvText quoteReturns metrics) (key : String) :
    key ∈ metrics'.keys ↔ key ∈ metrics.keys := by
  have hrows := Option.some.inj
    ((rows?_csvText quoteReturns metrics').symm.trans
      ((congrArg rows? h).trans (rows?_csvText quoteReturns metrics)))
  have hkeys : metrics'.sorted.map Prod.fst = metrics.sorted.map Prod.fst := by
    have hheads := congrArg (List.map List.head?) (List.cons.inj hrows).2
    rw [List.map_map, List.map_map] at hheads
    refine List.map_injective_iff.2 (Option.some_injective String) ?_
    rw [List.map_map, List.map_map]
    exact hheads
  have hperm := (metrics'.sorted_perm.map Prod.fst).symm.trans
    (hkeys ▸ metrics.sorted_perm.map Prod.fst)
  exact hperm.mem_iff

/-- The comma-separated values of a metric map are read back, whatever the keys are, and whether or
not a carriage return is put between quotes: behind the heading one row of two fields for each key,
in strictly ascending order of the keys, with the key and the seconds with three places.  Of what
was written only the line feed behind the last row is taken off, and maps with different keys never
have the same text. -/
theorem csv_rows_read_back (metrics : MetricMap) :
    render .csv metrics = csvText false metrics ∧
    metrics.sorted.Perm metrics.entries ∧
    (metrics.sorted.Pairwise fun e e' => e.1 < e'.1) ∧
    (∀ e ∈ metrics.sorted, e.2.IsFixedText 3 e.2.toMillis.toList) ∧
    ∀ quoteReturns,
      rows? (csvText quoteReturns metrics) =
        some (["key", "seconds"] :: metrics.sorted.map fun e => [e.1, e.2.toMillis]) ∧
      csvWritten quoteReturns metrics = (csvText quoteReturns metrics).toList ++ ['\n'] ∧
      trimEnd (fun c => c = '\n') (csvWritten quoteReturns metrics) =
        (csvText quoteReturns metrics).toList ∧
      ∀ metrics', csvText quoteReturns metrics' = csvText quoteReturns metrics →
        ∀ key, key ∈ metrics'.keys ↔ key ∈ metrics.keys :=
  ⟨rfl, metrics.sorted_perm, metrics.pairwise_sorted, fun e _ => e.2.isFixedText_toMillis,
    fun quoteReturns => ⟨rows?_csvText quoteReturns metrics, csvWritten_eq quoteReturns metrics,
      trimEnd_csvWritten quoteReturns metrics, fun _ h => mem_keys_iff_of_csvText_eq h⟩⟩

end SectionTimes.Format
