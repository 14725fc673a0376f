import Mathlib.Data.List.Infix
import SectionTimes.Duration.Lines
import SectionTimes.Proofs.Duration.Grammar

/-!
# What the filter keeps

The filter looks for fixed words in a line without its end, the grammar looks at the line without
the blanks around it.  Every line that the grammar accepts has the words, and taking off the end
changes neither what a line tells nor whether it is about a memory map.  So filtering before
reading loses the lines about memory maps and no others.
-/

namespace SectionTimes

open Text Duration

/-! ## Line ends -/

/-- What is taken off a line are carriage returns and line feeds. -/
theorem exists_eq_withoutEnd_append (line : String) :
    ∃ w, (∀ c ∈ w, c = '\r' ∨ c = '\n') ∧ line.toList = (withoutEnd line).toList ++ w := by
  obtain ⟨w, hw, he⟩ :=
    exists_eq_trimEnd_append (fun c => c = '\r' || c = '\n') line.toList
  refine ⟨w, fun c hc => by simpa using hw c hc, ?_⟩
  rw [withoutEnd, String.toList_ofList]
  exact he

theorem withoutEnd_withoutEnd (line : String) : withoutEnd (withoutEnd line) = withoutEnd line := by
  rw [withoutEnd, withoutEnd, String.toList_ofList, trimEnd_trimEnd]

theorem trim_withoutEnd (line : String) : trim (withoutEnd line).toList = trim line.toList := by
  obtain ⟨w, hw, he⟩ := exists_eq_withoutEnd_append line
  have hblank : ∀ c ∈ w, isBlank c = true := by
    intro c hc
    rcases hw c hc with rfl | rfl <;> decide
  have htrim := trim_append (s := (withoutEnd line).toList) (w := []) (by simp) hblank
  rw [List.nil_append, ← he] at htrim
  exact htrim.symm

/-- A line tells the same without its end. -/
theorem ofLine?_withoutEnd (line : String) :
    Metric.ofLine? (withoutEnd line) = Metric.ofLine? line := by
  unfold Metric.ofLine? readSection readService
  rw [trim_withoutEnd]

/-- A line is about a memory map just when it is so without its end. -/
theorem infix_withoutEnd_iff {part : List Char} (hr : '\r' ∉ part) (hn : '\n' ∉ part)
    (line : String) : part <:+: (withoutEnd line).toList ↔ part <:+: line.toList := by
  obtain ⟨w, hw, he⟩ := exists_eq_withoutEnd_append line
  rw [he]
  refine (infix_append_iff_of_disjoint fun c hc => ?_).symm
  rcases hw c hc with rfl | rfl
  · exact hr
  · exact hn

/-! ## Marks -/

theorem trim_isInfix (s : List Char) : trim s <:+: s := by
  obtain ⟨w, w', -, -, he⟩ := exists_eq_append_trim s
  exact ⟨w, w', he.symm⟩

theorem sectionWords_isInfix (l : SectionLine) : "was the duration of '".toList <:+: l.text := by
  rw [l.text_eq]
  refine ⟨rule 6 ++ l.gap ++ l.amount.text ++ ['s', ' '], sectionTail l.name l.endGap, ?_⟩
  have hwords : sectionWords = ['s', ' '] ++ "was the duration of '".toList := rfl
  simp only [headText, hwords, List.append_assoc]

theorem serviceWords_isInfix (l : ServiceLine) :
    "was the duration of dumpsys".toList <:+: l.text := by
  rw [l.text_eq]
  refine ⟨rule 9 ++ l.gap ++ l.amount.text ++ ['s', ' '], [' '] ++ serviceTail l.name l.ending, ?_⟩
  have hwords : serviceWords = ['s', ' '] ++ "was the duration of dumpsys".toList ++ [' '] := rfl
  simp only [headText, hwords, List.append_assoc]

theorem isDurationLine_iff {line : String} :
    isDurationLine line = true ↔ ¬ "SHOW MAP".toList <:+: line.toList ∧
      ("was the duration of '".toList <:+: line.toList ∨
        "was the duration of dumpsys".toList <:+: line.toList) := by
  rw [isDurationLine, Bool.and_eq_true, Bool.or_eq_true, Bool.not_eq_true', ← Bool.not_eq_true,
    mentions_iff, mentions_iff, mentions_iff]

/-- A line that tells a metric has the words that the filter looks for. -/
theorem isDurationLine_of_ofLine? {line : String} {m : Metric} (h : Metric.ofLine? line = some m) :
    isDurationLine line = true ↔ ¬ "SHOW MAP".toList <:+: line.toList := by
  rw [isDurationLine_iff]
  refine and_iff_left ?_
  rcases ofLine?_eq_some_iff.1 h with ⟨l, hl, -⟩ | ⟨l, hl, -⟩
  · exact Or.inl ((sectionWords_isInfix l).trans (hl ▸ trim_isInfix _))
  · exact Or.inr ((serviceWords_isInfix l).trans (hl ▸ trim_isInfix _))

/-! ## The filter -/

/-- The metrics of the lines that are kept. -/
theorem ofLines_durationLines (lines : List String) :
    Metric.ofLines (DurationLines.ofLines lines).toList =
      Metric.ofLines (lines.filter fun line => ¬ "SHOW MAP".toList <:+: line.toList) := by
  -- Both sides go through the lines once; they agree line by line, as a line that tells nothing is
  -- dropped on both.
  unfold Metric.ofLines DurationLines.ofLines
  rw [List.filter_map, List.filterMap_map, List.filterMap_filter, List.filterMap_filter]
  refine List.filterMap_congr fun line _ => ?_
  simp only [Function.comp_apply, ofLine?_withoutEnd]
  cases hm : Metric.ofLine? line with
  | none => rw [ite_self, ite_self]
  | some m =>
    have hline := isDurationLine_of_ofLine? ((ofLine?_withoutEnd line).trans hm)
    rw [infix_withoutEnd_iff (by decide) (by decide)] at hline
    rw [Bool.eq_iff_iff.2 (hline.trans decide_eq_true_iff.symm)]

/-- The lines kept are duration lines without ends already. -/
theorem durationLines_toList_fixed {lines : List String} {line : String}
    (h : line ∈ (DurationLines.ofLines lines).toList) :
    isDurationLine line = true ∧ withoutEnd line = line := by
  obtain ⟨hmem, hline⟩ := List.mem_filter.1 h
  obtain ⟨line', -, rfl⟩ := List.mem_map.1 hmem
  exact ⟨hline, withoutEnd_withoutEnd line'⟩

/-- Filtering again keeps everything. -/
theorem ofLines_toList_ofLines (lines : List String) :
    DurationLines.ofLines (DurationLines.ofLines lines).toList = DurationLines.ofLines lines := by
  have hmap : (DurationLines.ofLines lines).toList.map withoutEnd =
      (DurationLines.ofLines lines).toList :=
    (List.map_congr_left fun line h => (durationLines_toList_fixed h).2).trans (List.map_id _)
  have hfilter : (DurationLines.ofLines lines).toList.filter isDurationLine =
      (DurationLines.ofLines lines).toList :=
    List.filter_eq_self.2 fun line h => (durationLines_toList_fixed h).1
  rw [DurationLines.ofLines, hmap, hfilter]

/-- The filter loses no metric but those of lines about memory maps, and doing it twice is doing
it once. -/
theorem durationLines_lossless :
    (∀ lines : List String, Metric.ofLines (DurationLines.ofLines lines).toList =
      Metric.ofLines (lines.filter fun line => ¬ "SHOW MAP".toList <:+: line.toList)) ∧
    (∀ (line : String) (m : Metric), Metric.ofLine? line = some m →
      (isDurationLine line = true ↔ ¬ "SHOW MAP".toList <:+: line.toList)) ∧
    (∀ line : String, Metric.ofLine? (withoutEnd line) = Metric.ofLine? line ∧
      ("SHOW MAP".toList <:+: (withoutEnd line).toList ↔ "SHOW MAP".toList <:+: line.toList)) ∧
    (∀ lines : List String, (DurationLines.ofLines lines).toList.Sublist (lines.map withoutEnd) ∧
      ∀ line, isDurationLine line = true →
        (DurationLines.ofLines lines).toList.count line = (lines.map withoutEnd).count line) ∧
    ∀ lines : List String,
      DurationLines.ofLines (DurationLines.ofLines lines).toList = DurationLines.ofLines lines := by
  refine ⟨ofLines_durationLines, fun line m hm => isDurationLine_of_ofLine? hm, fun line => ?_,
    fun lines => ?_, ofLines_toList_ofLines⟩
  · exact ⟨ofLine?_withoutEnd line, infix_withoutEnd_iff (by decide) (by decide) line⟩
  · exact ⟨List.filter_sublist, fun line h => List.count_filter h⟩

theorem isDurationLine_service :
    isDurationLine "--------- 7s was the duration of dumpsys x, ending at: y\r\n" = true := by
  have hread : (Metric.ofLine?
      "--------- 7s was the duration of dumpsys x, ending at: y\r\n").isSome = true := by
    decide +kernel
  obtain ⟨m, hm⟩ := Option.isSome_iff_exists.1 hread
  exact (durationLines_lossless.2.1 _ m hm).2 (by decide)

end SectionTimes
