import SectionTimes.Proofs.Data.Table
import SectionTimes.Proofs.Duration.MetricMap
import SectionTimes.Proofs.Number.Fixed
import SectionTimes.Proofs.Text.LetterCase
import SectionTimes.Report.Format

/-!
# The plain text of a metric map

Nothing is escaped in plain text.  It can be read back all the same: the name of a section or a
service stands in one line of a report, so that no key holds a line feed, and no text of a number
holds a blank, so that the last blank of a line is the one between the key and the seconds.
-/

namespace SectionTimes

open Text

/-! ## Keys of one line -/

namespace Metric

variable {name : List Char} {line : String} {m : Metric}

theorem lineFeed_not_mem_sectionSlug (h : '\n' ∉ name) : '\n' ∉ sectionSlug name := by
  unfold sectionSlug
  rw [List.mem_map]
  rintro ⟨c, hc, heq⟩
  by_cases hspace : c = ' '
  · rw [if_pos hspace] at heq
    exact absurd heq (by decide)
  · rw [if_neg hspace] at heq
    exact lineFeed_not_mem_lower h (heq ▸ hc)

/-- What a line tells has a name of one line. -/
theorem lineFeed_not_mem_name (h : ofLine? line = some m) : '\n' ∉ m.name.toList := by
  rcases Duration.ofLine?_eq_some_iff.1 h with ⟨l, -, rfl⟩ | ⟨l, -, -, rfl⟩
  · show '\n' ∉ (String.ofList l.name).toList
    rw [String.toList_ofList]
    exact l.name_oneLine
  · show '\n' ∉ (String.ofList l.name).toList
    rw [String.toList_ofList]
    exact l.name_oneLine

theorem lineFeed_not_mem_key (h : ofLine? line = some m) : '\n' ∉ m.key.toList := by
  have hname := lineFeed_not_mem_name h
  rcases key_of_ofLine? h with ⟨-, hkey⟩ | ⟨-, hkey⟩
  · rw [hkey, toList_sectionKey, List.mem_append, not_or]
    exact ⟨by decide, lineFeed_not_mem_sectionSlug hname⟩
  · rw [hkey, toList_serviceKey, List.mem_append, not_or]
    exact ⟨by decide, hname⟩

end Metric

namespace MetricMap

/-- The metric map of lines, whatever they are. -/
def ofLines (lines : List String) : MetricMap := ofMetrics (Metric.ofLines lines)

theorem lineFeed_not_mem_of_mem_keys {lines : List String} {key : String}
    (h : key ∈ (ofLines lines).keys) : '\n' ∉ key.toList := by
  obtain ⟨m, hm, rfl⟩ := mem_keys_ofMetrics_iff.1 h
  obtain ⟨line, -, hline⟩ := List.mem_filterMap.1 hm
  exact Metric.lineFeed_not_mem_key hline

end MetricMap

/-! ## The text -/

namespace Format

variable {metrics : MetricMap} {c : Char} {x : Binary64}

/-- No character of a number is a blank, so that a number ends no line and holds no space. -/
theorem isBlank_of_mem_toMillis (h : c ∈ x.toMillis.toList) : isBlank c = false := by
  have hblank : ∀ c ∈ numberChars, isBlank c = false := List.all_iff_forall_prop.1 (by decide)
  exact hblank c (x.isFixedText_toMillis.mem_numberChars c h)

/-- The line of an entry. -/
def plainLine (e : String × Binary64) : List Char := e.1.toList ++ ' ' :: e.2.toMillis.toList

theorem toList_plainText (metrics : MetricMap) :
    (plainText metrics).toList = ['\n'].intercalate (metrics.sorted.map plainLine) := by
  unfold plainText joined
  rw [String.toList_intercalate, List.map_map]
  congr 1
  refine List.map_congr_left fun e _ => ?_
  simp [plainLine]

/-- The last space of a line stands behind the key. -/
theorem cutAtLast_plainLine (e : String × Binary64) :
    cutAtLast ' ' (plainLine e) = some (e.1.toList, e.2.toMillis.toList) := by
  refine cutAtLast_eq_some_iff.2 ⟨rfl, fun hspace => ?_⟩
  exact absurd (isBlank_of_mem_toMillis hspace) (by decide)

theorem splitOn_plainText (hkeys : ∀ key ∈ metrics.keys, '\n' ∉ key.toList)
    (hne : metrics.keys ≠ []) :
    (plainText metrics).toList.splitOn '\n' = metrics.sorted.map plainLine := by
  rw [toList_plainText]
  refine List.splitOn_intercalate '\n' (fun line hline => ?_) fun hnil => ?_
  · obtain ⟨e, he, rfl⟩ := List.mem_map.1 hline
    have hkey := hkeys e.1 (Table.mem_keys_iff_exists_mem_sorted.2 ⟨e.2, he⟩)
    intro hmem
    rcases List.mem_append.1 hmem with hmem | hmem
    · exact hkey hmem
    · rcases List.mem_cons.1 hmem with heq | hmem
      · exact absurd heq (by decide)
      · exact absurd (isBlank_of_mem_toMillis hmem) (by decide)
  · have hlength := metrics.sorted_perm.length_eq
    rw [List.map_eq_nil_iff.1 hnil] at hlength
    exact hne (List.map_eq_nil_iff.2 (List.length_eq_zero_iff.1 hlength.symm))

/-- The plain text of what lines tell is read back line by line.  No key holds a line feed, whatever
the lines are.  If there is a key, the text has one line for each key and no other, in strictly
ascending order of the keys, and the last space of a line divides it into the key and the seconds,
which are written with three places and hold no blank. -/
theorem plain_lines_read_back (lines : List String) :
    (∀ key ∈ (MetricMap.ofLines lines).keys, '\n' ∉ key.toList) ∧
    ((MetricMap.ofLines lines).keys ≠ [] →
      (render .plain (.ofLines lines)).toList.splitOn '\n' =
          (MetricMap.ofLines lines).sorted.map (fun e =>
            e.1.toList ++ ' ' :: e.2.toMillis.toList) ∧
        ((render .plain (.ofLines lines)).toList.splitOn '\n').map (cutAtLast ' ') =
          (MetricMap.ofLines lines).sorted.map fun e =>
            some (e.1.toList, e.2.toMillis.toList)) ∧
    (MetricMap.ofLines lines).sorted.Perm (MetricMap.ofLines lines).entries ∧
    ((MetricMap.ofLines lines).sorted.Pairwise fun e e' => e.1 < e'.1) ∧
    ∀ e ∈ (MetricMap.ofLines lines).sorted,
      e.2.IsFixedText 3 e.2.toMillis.toList ∧ ∀ c ∈ e.2.toMillis.toList, isBlank c = false := by
  have hkeys : ∀ key ∈ (MetricMap.ofLines lines).keys, '\n' ∉ key.toList :=
    fun key => MetricMap.lineFeed_not_mem_of_mem_keys
  refine ⟨hkeys, fun hne => ?_, Table.sorted_perm _, Table.pairwise_sorted _, fun e _ =>
    ⟨e.2.isFixedText_toMillis, fun c hc => isBlank_of_mem_toMillis hc⟩⟩
  have hlines : (render .plain (.ofLines lines)).toList.splitOn '\n' =
      (MetricMap.ofLines lines).sorted.map plainLine := splitOn_plainText hkeys hne
  refine ⟨hlines, ?_⟩
  rw [hlines, List.map_map]
  exact List.map_congr_left fun e _ => cutAtLast_plainLine e

end Format

end SectionTimes
