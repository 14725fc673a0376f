import SectionTimes.Collector
import SectionTimes.Proofs.Duration.MetricMap
import SectionTimes.Proofs.Log

/-!
# What a collector reports

A collector reports the metric map of the lines of the newest report.
-/

namespace SectionTimes

open Bugreport Text

namespace Collector

variable {c : Collector} {files : Files} {archive : String} {found : List String}
  {log log₁ log₂ : Log}

theorem run_durationLines (h : (lines files c.folder archive).run log = .ok found log₁) :
    (c.durationLines files archive).run log = .ok (DurationLines.ofLines found) log₁ :=
  Logged.run_bind_ok h

theorem run_metricsOf (h : (lines files c.folder archive).run log = .ok found log₁) :
    ∃ log₂, (c.metricsOf files archive).run log = .ok (Metric.ofReport found) log₂ :=
  ⟨_, (Logged.run_bind_ok (run_durationLines h)).trans (Logged.run_bind_ok (Logged.run_note _ _))⟩

/-- A collector reports the metric map of the newest report if there is one that can be read. -/
theorem run_collect (hnewest : (newest files c.folder).run log = .ok archive log₁)
    (hlines : (lines files c.folder archive).run log₁ = .ok found log₂) :
    ∃ log₃, (c.collect files).run log = .ok (MetricMap.ofReport found) log₃ := by
  obtain ⟨log₃, hmetrics⟩ := run_metricsOf hlines
  refine ⟨log₃, Logged.run_tryCatch_ok ?_⟩
  have h : (c.metrics files none).run log = .ok (Metric.ofReport found) log₃ :=
    (Logged.run_bind_ok hnewest).trans hmetrics
  exact Logged.run_bind_ok h

end Collector

/-- The map that is collected has the keys of the metrics of the report, each with the time of
its last metric.  The time of a service is lost only to a later one of that service, and sections
share a key only if their names have the same slug. -/
theorem metricMap_exact :
    (∀ (lines : List String) (key : String),
      (key ∈ (MetricMap.ofReport lines).keys ↔ ∃ m ∈ Metric.ofReport lines, m.key = key) ∧
      ∀ seconds, (MetricMap.ofReport lines).find? key = some seconds ↔
        ∃ before m behind, Metric.ofReport lines = before ++ m :: behind ∧ m.key = key ∧
          m.seconds = seconds ∧ ∀ m' ∈ behind, m'.key ≠ key) ∧
    (∀ (lines : List String) (before : List Metric) (m : Metric) (behind : List Metric),
      Metric.ofReport lines = before ++ m :: behind → m.kind = .dumpsys →
        (MetricMap.ofReport lines).find? m.key = some m.seconds ∨
          ∃ m' ∈ behind, m'.kind = .dumpsys ∧ m'.name = m.name ∧
            (MetricMap.ofReport lines).find? m.key = some m'.seconds) ∧
    (∀ name name' : String, Metric.serviceKey name ≠ Metric.sectionKey name' ∧
      (Metric.serviceKey name = Metric.serviceKey name' ↔ name = name')) ∧
    (∀ (lines : List String), ∀ m ∈ Metric.ofReport lines, ∀ m' ∈ Metric.ofReport lines,
      (m.kind = .dumpsys → (m'.key = m.key ↔ m'.kind = .dumpsys ∧ m'.name = m.name)) ∧
      (m.kind = .dumpstate → m'.kind = .dumpstate → (m.key = m'.key ↔
        (lower m.name.toList).map (fun c => if c = ' ' then '-' else c) =
          (lower m'.name.toList).map fun c => if c = ' ' then '-' else c))) ∧
    (∀ lines : List String,
      Metric.ofReport lines =
        Metric.ofLines (lines.filter fun line => ¬ "SHOW MAP".toList <:+: line.toList) ∧
      ((Metric.ofReport lines).map some).Sublist (lines.map Metric.ofLine?)) ∧
    ∀ (c : Collector) (files : Files) (log log₁ log₂ : Log) (archive : String)
      (found : List String), (newest files c.folder).run log = .ok archive log₁ →
        (lines files c.folder archive).run log₁ = .ok found log₂ →
          ∃ log₃, (c.collect files).run log = .ok (MetricMap.ofReport found) log₃ := by
  exact ⟨fun lines key => ⟨MetricMap.mem_keys_ofMetrics_iff,
      fun seconds => MetricMap.find?_ofMetrics_eq_some_iff⟩,
    fun lines before m behind => MetricMap.find?_ofReport_dumpsys,
    fun name name' => ⟨Metric.serviceKey_ne_sectionKey name name',
      Metric.serviceKey_injective.eq_iff⟩,
    fun lines m hm m' hm' => ⟨Metric.key_eq_dumpsys_iff hm hm',
      Metric.key_eq_dumpstate_iff hm hm'⟩,
    fun lines => ⟨ofLines_durationLines lines, Metric.map_some_ofReport_sublist lines⟩,
    fun c files log log₁ log₂ archive found => Collector.run_collect⟩

/-- The line of a short report. -/
def shortReport : String := "--------- 7s was the duration of dumpsys x, ending at: y"

/-- An archive that holds the short report unpacked. -/
def shortArchive : List UInt8 :=
  [ 80, 75, 3, 4, 20, 0, 0, 0, 0, 0, 0, 0, 33, 0, 212, 25, 201, 154, 56, 0, 0, 0, 56, 0, 0, 0, 15,
    0, 0, 0, 98, 117, 103, 114, 101, 112, 111, 114, 116, 45, 97, 46, 116, 120, 116, 45, 45, 45,
    45, 45, 45, 45, 45, 45, 32, 55, 115, 32, 119, 97, 115, 32, 116, 104, 101, 32, 100, 117, 114,
    97, 116, 105, 111, 110, 32, 111, 102, 32, 100, 117, 109, 112, 115, 121, 115, 32, 120, 44, 32,
    101, 110, 100, 105, 110, 103, 32, 97, 116, 58, 32, 121, 80, 75, 1, 2, 20, 3, 20, 0, 0, 0, 0,
    0, 0, 0, 33, 0, 212, 25, 201, 154, 56, 0, 0, 0, 56, 0, 0, 0, 15, 0, 0, 0, 0, 0, 0, 0, 0, 0, 0,
    0, 128, 1, 0, 0, 0, 0, 98, 117, 103, 114, 101, 112, 111, 114, 116, 45, 97, 46, 116, 120, 116,
    80, 75, 5, 6, 0, 0, 0, 0, 1, 0, 1, 0, 61, 0, 0, 0, 101, 0, 0, 0, 0, 0]

/-- A folder with that archive. -/
def shortFiles : Files :=
  ⟨Table.ofList [(["r"], .folder), (["r", "bugreport-a.zip"], .file shortArchive)]⟩

theorem collect_shortFiles :
    ∃ log, (Collector.collect ⟨"r"⟩ shortFiles).run [] =
        .ok (MetricMap.ofReport [shortReport]) log ∧
      "bugreport-dumpsys-duration-x" ∈ (MetricMap.ofReport [shortReport]).keys := by
  have hnewest : (newest shortFiles "r").run [] = .ok "bugreport-a.zip"
      [⟨.debug, "Latest bugreport in r: bugreport-a.zip (of 1)"⟩] := by decide +kernel
  have hlines : (lines shortFiles "r" "bugreport-a.zip").run
      [⟨.debug, "Latest bugreport in r: bugreport-a.zip (of 1)"⟩] = .ok [shortReport]
      [⟨.debug, "Latest bugreport in r: bugreport-a.zip (of 1)"⟩] := by decide +kernel
  have hkeys : (Metric.ofReport [shortReport]).map Metric.key =
      ["bugreport-dumpsys-duration-x"] := by decide +kernel
  obtain ⟨log, hlog⟩ := metricMap_exact.2.2.2.2.2 ⟨"r"⟩ shortFiles _ _ _ _ _ hnewest hlines
  refine ⟨log, hlog, (metricMap_exact.1 _ _).1.2 (List.mem_map.1 ?_)⟩
  rw [hkeys]
  exact List.mem_singleton_self _

end SectionTimes
