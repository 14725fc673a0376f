import SectionTimes.Duration.Metric
import SectionTimes.Proofs.Duration.SectionLine
import SectionTimes.Proofs.Duration.ServiceLine

/-!
# What lines tell

A line tells the metric of a section just when it is a section line, and the metric of a service
just when it is a service line; no line is both.  Of the ways in which a service line can be
divided the one with the shortest name counts.
-/

namespace SectionTimes.Duration

open Text

/-- The metric that a section line tells. -/
def SectionLine.metric (l : SectionLine) : Metric where
  key := "bugreport-duration-" ++
    String.ofList ((lower l.name).map fun c => if c = ' ' then '-' else c)
  name := String.ofList l.name
  seconds := l.amount.seconds
  kind := .dumpstate

/-- The metric that a service line tells. -/
def ServiceLine.metric (l : ServiceLine) : Metric where
  key := "bugreport-dumpsys-duration-" ++ String.ofList l.name
  name := String.ofList l.name
  seconds := l.amount.seconds
  kind := .dumpsys

theorem ofSection_reading (l : SectionLine) : Metric.ofSection l.reading = l.metric := by
  have hname : (String.ofList l.reading.name).toList = l.name := String.toList_ofList
  unfold Metric.ofSection Metric.sectionKey Metric.sectionSlug
  rw [hname]
  rfl

theorem ofService_reading (l : ServiceLine) : Metric.ofService l.reading = l.metric := rfl

/-- No line closes both a section and a service. -/
theorem SectionLine.text_ne (l : SectionLine) (l' : ServiceLine) : l.text ≠ l'.text := by
  rw [SectionLine.text_eq, ServiceLine.text_eq]
  exact headText_append_ne 6 2 l.gap_isGap

variable {line : String} {m : Metric}

theorem ofLine?_of_section (l : SectionLine) (h : l.text = trim line.toList) :
    Metric.ofLine? line = some l.metric := by
  have hread : readSection line.toList = some l.reading :=
    readSection_eq_some_iff.2 ⟨l, h, rfl⟩
  rw [Metric.ofLine?, hread, ← ofSection_reading]

theorem ofLine?_of_service (l : ServiceLine) (h : l.text = trim line.toList)
    (hl : l.IsShortest) : Metric.ofLine? line = some l.metric := by
  have hsection : readSection line.toList = none := by
    refine Option.eq_none_iff_forall_not_mem.2 fun r hr => ?_
    obtain ⟨l', h', -⟩ := readSection_eq_some_iff.1 hr
    exact l'.text_ne l (h'.trans h.symm)
  have hread : readService line.toList = some l.reading :=
    readService_eq_some_iff.2 ⟨l, h, hl, rfl⟩
  rw [Metric.ofLine?, hsection, hread, ← ofService_reading]
  rfl

/-- A line tells a metric just when it is a section line or a service line. -/
theorem ofLine?_eq_some_iff :
    Metric.ofLine? line = some m ↔
      (∃ l : SectionLine, l.text = trim line.toList ∧ l.metric = m) ∨
        ∃ l : ServiceLine, l.text = trim line.toList ∧ l.IsShortest ∧ l.metric = m := by
  constructor
  · intro h
    unfold Metric.ofLine? at h
    split at h
    · rename_i r hr
      obtain ⟨l, hl, rfl⟩ := readSection_eq_some_iff.1 hr
      exact Or.inl ⟨l, hl, (ofSection_reading l).symm.trans (Option.some.inj h)⟩
    · obtain ⟨r, hr, rfl⟩ := Option.map_eq_some_iff.1 h
      obtain ⟨l, hl, hshort, rfl⟩ := readService_eq_some_iff.1 hr
      exact Or.inr ⟨l, hl, hshort, (ofService_reading l).symm⟩
  · rintro (⟨l, h, rfl⟩ | ⟨l, h, hl, rfl⟩)
    · exact ofLine?_of_section l h
    · exact ofLine?_of_service l h hl

theorem SectionLine.kind_metric (l : SectionLine) : l.metric.kind = .dumpstate := rfl

theorem ServiceLine.kind_metric (l : ServiceLine) : l.metric.kind = .dumpsys := rfl

theorem dumpstate_ne_dumpsys : Kind.dumpstate ≠ Kind.dumpsys := by decide

/-! ## Section lines -/

theorem ofLine?_dumpstate_iff :
    Metric.ofLine? line = some m ∧ m.kind = .dumpstate ↔
      ∃ l : SectionLine, l.text = trim line.toList ∧ l.metric = m := by
  rw [ofLine?_eq_some_iff]
  constructor
  · rintro ⟨h | ⟨l, -, -, rfl⟩, hkind⟩
    · exact h
    · exact absurd hkind.symm dumpstate_ne_dumpsys
  · rintro ⟨l, h, rfl⟩
    exact ⟨Or.inl ⟨l, h, rfl⟩, l.kind_metric⟩

/-- A line tells the metric of a section just when it is a section line once trimmed, and there
is one way only to divide it.  Its seconds are the number nearest to the amount. -/
theorem sectionLine_exact :
    (∀ line name : String,
      (∃ m, Metric.ofLine? line = some m ∧ m.kind = .dumpstate ∧ m.name = name) ↔
        ∃ l : SectionLine, l.text = trim line.toList ∧ l.name = name.toList) ∧
    Function.Injective SectionLine.text ∧
    (∀ (line : String) (l : SectionLine), l.text = trim line.toList →
      ∃ m, Metric.ofLine? line = some m ∧ m.kind = .dumpstate ∧ m.name.toList = l.name ∧
        m.key = "bugreport-duration-" ++
          String.ofList ((lower l.name).map fun c => if c = ' ' then '-' else c) ∧
        m.seconds = l.amount.seconds ∧ Binary64.IsRounded l.amount.value m.seconds) ∧
    (∀ (before behind : List Char) (l : SectionLine), (∀ c ∈ before, isBlank c = true) →
      (∀ c ∈ behind, isBlank c = true) →
        Metric.ofLine? (String.ofList (before ++ l.text ++ behind)) = some l.metric) := by
  refine ⟨fun line name => ?_, SectionLine.text_injective, fun line l h => ?_, ?_⟩
  · constructor
    · rintro ⟨m, hm, hkind, rfl⟩
      obtain ⟨l, h, rfl⟩ := ofLine?_dumpstate_iff.1 ⟨hm, hkind⟩
      exact ⟨l, h, (String.toList_ofList).symm⟩
    · rintro ⟨l, h, hname⟩
      refine ⟨l.metric, ofLine?_of_section l h, l.kind_metric, ?_⟩
      exact (congrArg String.ofList hname).trans String.ofList_toList
  · exact ⟨l.metric, ofLine?_of_section l h, l.kind_metric, String.toList_ofList, rfl, rfl,
      l.amount.isRounded_seconds⟩
  · intro before behind l hbefore hbehind
    refine ofLine?_of_section l ?_
    rw [String.toList_ofList, trim_append hbefore hbehind, l.trim_text]

theorem ofLine?_rule_in_name :
    ∃ m, Metric.ofLine? "------ 1.5s was the duration of 'A' ------ B' ------\n" = some m ∧
      m.kind = .dumpstate ∧ m.name = "A' ------ B" := by
  let l : SectionLine :=
    { gap := [' ']
      amount := ⟨['1'], ['5']⟩
      name := "A' ------ B".toList
      endGap := [' ']
      gap_isGap := ⟨by decide, List.forall_mem_singleton.2 (by decide)⟩
      amount_valid := ⟨by decide, List.forall_mem_singleton.2 (by decide),
        List.forall_mem_singleton.2 (by decide)⟩
      name_oneLine := by decide
      endGap_isGap := ⟨by decide, List.forall_mem_singleton.2 (by decide)⟩ }
  exact (sectionLine_exact.1 _ _).2 ⟨l, by decide +kernel, rfl⟩

/-! ## Service lines -/

theorem ofLine?_dumpsys_iff :
    Metric.ofLine? line = some m ∧ m.kind = .dumpsys ↔
      ∃ l : ServiceLine, l.text = trim line.toList ∧ l.IsShortest ∧ l.metric = m := by
  rw [ofLine?_eq_some_iff]
  constructor
  · rintro ⟨⟨l, -, rfl⟩ | h, hkind⟩
    · exact absurd hkind dumpstate_ne_dumpsys
    · exact h
  · rintro ⟨l, h, hl, rfl⟩
    exact ⟨Or.inr ⟨l, h, hl, rfl⟩, l.kind_metric⟩

/-- A line tells the metric of a service just when it is a service line once trimmed.  Its name
is the shortest that the line allows, and it begins every other. -/
theorem serviceLine_exact :
    (∀ line : String,
      (∃ m, Metric.ofLine? line = some m ∧ m.kind = .dumpsys) ↔
        ∃ l : ServiceLine, l.text = trim line.toList) ∧
    (∀ (line : String) (m : Metric), Metric.ofLine? line = some m → m.kind = .dumpsys →
      ∃ l : ServiceLine, l.text = trim line.toList ∧
        (∀ l' : ServiceLine, l'.text = trim line.toList →
          l'.gap = l.gap ∧ l'.amount = l.amount ∧ l.name <+: l'.name) ∧
        m.name.toList = l.name ∧ m.key = "bugreport-dumpsys-duration-" ++ m.name ∧
        m.seconds = l.amount.seconds ∧ Binary64.IsRounded l.amount.value m.seconds) ∧
    (∀ (line : String) (l : ServiceLine), l.text = trim line.toList →
      ∃ c ∈ l.ending, isBlank c = false) ∧
    (∀ (before behind : List Char) (l : ServiceLine) (c : Char),
      (∀ c ∈ before, isBlank c = true) → (∀ c ∈ behind, isBlank c = true) →
        ¬ ", ending at: ".toList <:+: l.name → l.ending.getLast? = some c → isBlank c = false →
          Metric.ofLine? (String.ofList (before ++ l.text ++ behind)) = some l.metric) := by
  refine ⟨fun line => ?_, fun line m hm hkind => ?_, fun line l h => ?_, ?_⟩
  · constructor
    · rintro ⟨m, hm⟩
      obtain ⟨l, h, -⟩ := ofLine?_dumpsys_iff.1 hm
      exact ⟨l, h⟩
    · rintro ⟨l, h⟩
      obtain ⟨r, hr⟩ := exists_readService l h
      obtain ⟨l', h', hl', -⟩ := readService_eq_some_iff.1 hr
      exact ⟨l'.metric, ofLine?_of_service l' h' hl', l'.kind_metric⟩
  · obtain ⟨l, h, hl, rfl⟩ := ofLine?_dumpsys_iff.1 ⟨hm, hkind⟩
    refine ⟨l, h, fun l' h' => ?_, String.toList_ofList, rfl, rfl, l.amount.isRounded_seconds⟩
    obtain ⟨hgap, hamount, -⟩ := ServiceLine.tail_eq_of_text_eq (h'.trans h.symm)
    exact ⟨hgap, hamount, hl.isPrefix (h'.trans h.symm)⟩
  · exact l.exists_not_isBlank_mem_ending h
  · intro before behind l c hbefore hbehind hname hend hc
    refine ofLine?_of_service l ?_ (l.isShortest_of_not_infix hname)
    rw [String.toList_ofList, trim_append hbefore hbehind, l.trim_text hend hc]

theorem ofLine?_words_in_ending :
    ∃ l : ServiceLine, l.name = ['x'] ∧ l.ending = "y, ending at: z".toList ∧
      Metric.ofLine? (String.ofList ([' '] ++ l.text ++ ['\n'])) = some l.metric := by
  let l : ServiceLine :=
    { gap := [' ']
      amount := ⟨['7'], []⟩
      name := ['x']
      ending := "y, ending at: z".toList
      gap_isGap := ⟨by decide, List.forall_mem_singleton.2 (by decide)⟩
      amount_valid := ⟨by decide, List.forall_mem_singleton.2 (by decide), by simp⟩
      name_ne_nil := by decide
      name_oneLine := by decide
      ending_oneLine := by decide }
  exact ⟨l, rfl, rfl, serviceLine_exact.2.2.2 [' '] ['\n'] l 'z'
    (List.forall_mem_singleton.2 (by decide)) (List.forall_mem_singleton.2 (by decide))
    (by decide) rfl (by decide)⟩

end SectionTimes.Duration
