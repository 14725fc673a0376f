import SectionTimes.Proofs.Data.Table
import SectionTimes.Proofs.Duration.Filtering

/-!
# Metric maps

No key of a service is the key of a section.  Services with different names have different keys,
while sections share a key when their names differ in case only, or in hyphens for spaces.  In a
metric map each key has the time of its last metric.
-/

namespace SectionTimes

open Text

/-! ## Keys -/

namespace Metric

theorem toList_serviceKey (name : String) :
    (serviceKey name).toList = "bugreport-dumpsys-duration-".toList ++ name.toList :=
  String.toList_append

theorem toList_sectionKey (name : String) :
    (sectionKey name).toList = "bugreport-duration-".toList ++ sectionSlug name.toList :=
  String.toList_append.trans (congrArg _ String.toList_ofList)

/-- The keys of services and sections differ in their thirteenth character. -/
theorem serviceKey_ne_sectionKey (name name' : String) : serviceKey name ≠ sectionKey name' := by
  intro h
  have hservice : (serviceKey name).toList[12]? = some 'm' := by
    rw [toList_serviceKey, List.getElem?_append_left (by decide)]
    decide
  have hsection : (sectionKey name').toList[12]? = some 'r' := by
    rw [toList_sectionKey, List.getElem?_append_left (by decide)]
    decide
  rw [h, hsection] at hservice
  exact absurd hservice (by decide)

theorem serviceKey_injective : Function.Injective serviceKey :=
  fun _ _ h => (String.append_right_inj _).1 h

theorem sectionKey_eq_iff {name name' : String} :
    sectionKey name = sectionKey name' ↔
      sectionSlug name.toList = sectionSlug name'.toList := by
  rw [← String.toList_inj, toList_sectionKey, toList_sectionKey, List.append_right_inj]

/-- A metric has the key of its section or service. -/
theorem key_of_ofLine? {line : String} {m : Metric} (h : ofLine? line = some m) :
    m.kind = .dumpstate ∧ m.key = sectionKey m.name ∨
      m.kind = .dumpsys ∧ m.key = serviceKey m.name := by
  unfold ofLine? at h
  split at h
  · obtain rfl := Option.some.inj h
    exact Or.inl ⟨rfl, rfl⟩
  · obtain ⟨r, -, rfl⟩ := Option.map_eq_some_iff.1 h
    exact Or.inr ⟨rfl, rfl⟩

theorem key_of_dumpstate {line : String} {m : Metric} (h : ofLine? line = some m)
    (hkind : m.kind = .dumpstate) : m.key = sectionKey m.name := by
  rcases key_of_ofLine? h with ⟨-, hkey⟩ | ⟨hkind', -⟩
  · exact hkey
  · exact absurd (hkind.symm.trans hkind') Duration.dumpstate_ne_dumpsys

theorem key_of_dumpsys {line : String} {m : Metric} (h : ofLine? line = some m)
    (hkind : m.kind = .dumpsys) : m.key = serviceKey m.name := by
  rcases key_of_ofLine? h with ⟨hkind', -⟩ | ⟨-, hkey⟩
  · exact absurd (hkind'.symm.trans hkind) Duration.dumpstate_ne_dumpsys
  · exact hkey

end Metric

/-! ## Maps -/

namespace MetricMap

variable {metrics : List Metric} {key : String} {seconds : Binary64}

theorem mem_keys_ofMetrics_iff :
    key ∈ (ofMetrics metrics).keys ↔ ∃ m ∈ metrics, m.key = key := by
  rw [ofMetrics, Table.mem_keys_ofList_iff]
  simp

theorem find?_ofMetrics (metrics : List Metric) (key : String) :
    (ofMetrics metrics).find? key =
      (metrics.reverse.find? fun m => m.key = key).map Metric.seconds := by
  rw [ofMetrics, Table.find?_ofList, ← List.map_reverse, List.find?_map, Option.map_map]
  rfl

/-- A key has the time of the last metric with it. -/
theorem find?_ofMetrics_eq_some_iff :
    (ofMetrics metrics).find? key = some seconds ↔
      ∃ before m behind, metrics = before ++ m :: behind ∧ m.key = key ∧ m.seconds = seconds ∧
        ∀ m' ∈ behind, m'.key ≠ key := by
  rw [find?_ofMetrics, Option.map_eq_some_iff]
  constructor
  · rintro ⟨m, h, hseconds⟩
    obtain ⟨hkey, behind, before, he, hbehind⟩ := List.find?_eq_some_iff_append.1 h
    refine ⟨before.reverse, m, behind.reverse, ?_, of_decide_eq_true hkey, hseconds,
      fun m' h' => ?_⟩
    · rw [← List.reverse_reverse metrics, he]
      simp
    · simpa using hbehind m' (List.mem_reverse.1 h')
  · rintro ⟨before, m, behind, rfl, hkey, hseconds, hbehind⟩
    refine ⟨m, List.find?_eq_some_iff_append.2 ⟨decide_eq_true hkey, behind.reverse,
      before.reverse, by simp, fun m' h' => ?_⟩, hseconds⟩
    simpa using hbehind m' (List.mem_reverse.1 h')

/-- The time of a metric is lost only to a later metric with the same key. -/
theorem find?_ofMetrics_append_cons (before : List Metric) (m : Metric) (behind : List Metric) :
    (ofMetrics (before ++ m :: behind)).find? m.key = some m.seconds ∨
      ∃ m' ∈ behind, m'.key = m.key ∧
        (ofMetrics (before ++ m :: behind)).find? m.key = some m'.seconds := by
  rw [find?_ofMetrics, List.reverse_append, List.reverse_cons, List.append_assoc,
    List.find?_append]
  cases h : behind.reverse.find? fun m' => m'.key = m.key with
  | none => simp
  | some m' =>
    refine Or.inr ⟨m', List.mem_reverse.1 (List.mem_of_find?_eq_some h), ?_, rfl⟩
    simpa using List.find?_some h

end MetricMap

/-! ## Reports -/

/-- The metrics of a report with these lines. -/
def Metric.ofReport (lines : List String) : List Metric :=
  ofLines (DurationLines.ofLines lines).toList

/-- The metric map of a report with these lines. -/
def MetricMap.ofReport (lines : List String) : MetricMap := ofMetrics (Metric.ofReport lines)

namespace Metric

variable {lines : List String} {m m' : Metric}

theorem exists_ofLine?_of_mem_ofReport (h : m ∈ ofReport lines) :
    ∃ line, ofLine? line = some m := by
  obtain ⟨line, -, hline⟩ := List.mem_filterMap.1 h
  exact ⟨line, hline⟩

/-- The metrics stand in the order of the lines. -/
theorem map_some_ofReport_sublist (lines : List String) :
    ((ofReport lines).map some).Sublist (lines.map ofLine?) := by
  rw [ofReport, ofLines_durationLines, ofLines, List.map_filterMap_some_eq_filter_map_isSome]
  exact List.filter_sublist.trans (List.filter_sublist.map _)

/-- What has the key of a service is about the service. -/
theorem key_eq_dumpsys_iff (hm : m ∈ ofReport lines) (hm' : m' ∈ ofReport lines)
    (hkind : m.kind = .dumpsys) : m'.key = m.key ↔ m'.kind = .dumpsys ∧ m'.name = m.name := by
  obtain ⟨line, hline⟩ := exists_ofLine?_of_mem_ofReport hm
  obtain ⟨line', hline'⟩ := exists_ofLine?_of_mem_ofReport hm'
  rw [key_of_dumpsys hline hkind]
  rcases key_of_ofLine? hline' with ⟨hkind', hkey⟩ | ⟨hkind', hkey⟩
  · rw [hkey, hkind']
    exact ⟨fun h => absurd h.symm (serviceKey_ne_sectionKey _ _),
      fun h => absurd h.1 Duration.dumpstate_ne_dumpsys⟩
  · rw [hkey, serviceKey_injective.eq_iff]
    exact ⟨fun h => ⟨hkind', h⟩, And.right⟩

theorem key_eq_dumpstate_iff (hm : m ∈ ofReport lines) (hm' : m' ∈ ofReport lines)
    (hkind : m.kind = .dumpstate) (hkind' : m'.kind = .dumpstate) :
    m.key = m'.key ↔ sectionSlug m.name.toList = sectionSlug m'.name.toList := by
  obtain ⟨line, hline⟩ := exists_ofLine?_of_mem_ofReport hm
  obtain ⟨line', hline'⟩ := exists_ofLine?_of_mem_ofReport hm'
  rw [key_of_dumpstate hline hkind, key_of_dumpstate hline' hkind', sectionKey_eq_iff]

end Metric

/-- The time of a service is lost only to a later metric of that service. -/
theorem MetricMap.find?_ofReport_dumpsys {lines : List String} {before behind : List Metric}
    {m : Metric} (h : Metric.ofReport lines = before ++ m :: behind) (hkind : m.kind = .dumpsys) :
    (ofReport lines).find? m.key = some m.seconds ∨
      ∃ m' ∈ behind, m'.kind = .dumpsys ∧ m'.name = m.name ∧
        (ofReport lines).find? m.key = some m'.seconds := by
  rw [ofReport, h]
  refine (find?_ofMetrics_append_cons before m behind).imp id ?_
  rintro ⟨m', hmem, hkey, hfind⟩
  have hm : m ∈ Metric.ofReport lines := by
    rw [h]
    exact List.mem_append_right _ List.mem_cons_self
  have hm' : m' ∈ Metric.ofReport lines := by
    rw [h]
    exact List.mem_append_right _ (List.mem_cons_of_mem _ hmem)
  obtain ⟨hkind', hname⟩ := (Metric.key_eq_dumpsys_iff hm hm' hkind).1 hkey
  exact ⟨m', hmem, hkind', hname, hfind⟩

end SectionTimes
