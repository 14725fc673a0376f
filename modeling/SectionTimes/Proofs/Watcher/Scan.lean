import SectionTimes.Proofs.Bugreport.Listed
import SectionTimes.Proofs.Watcher.Stopping

/-!
# What a scan reports

A scan reports the archives of its folder that can be read, each of them once and in ascending order
of their names.  What is reported of an archive comes from its own file: neither the order in which
the folder lists its names, nor what was taken up before, nor another archive that cannot be read
makes a difference to it.
-/

namespace SectionTimes

open Bugreport

namespace Watcher

variable {w w₁ : Watcher} {name : String} {names : List String}

/-! ## One archive -/

/-- The metrics of an archive come from its own file. -/
theorem metricsOf_eq_of_content? (hfolder : w₁.folder = w.folder)
    (hfile : w₁.files.content? (Path.join w.folder name) =
      w.files.content? (Path.join w.folder name)) :
    w₁.metricsOf name = w.metricsOf name := by
  change (Collector.metricsOf ⟨w₁.folder⟩ w₁.files name).outcome =
    (Collector.metricsOf ⟨w.folder⟩ w.files name).outcome
  rw [hfolder, Collector.outcome_metricsOf, Collector.outcome_metricsOf, outcome_lines,
    outcome_lines, hfile]

theorem reportOf?_congr (h : w₁.metricsOf name = w.metricsOf name) :
    w₁.reportOf? name = w.reportOf? name := by
  unfold reportOf? mapOf?
  rw [h]

/-! ## All archives -/

/-- Reports of archives in ascending order are in that order. -/
theorem pairwise_reports (h : names.Pairwise (· < ·)) :
    ((names.filterMap w.reportOf?).map Prod.fst).Pairwise (· < ·) := by
  rw [List.pairwise_map]
  refine List.Pairwise.filterMap _ (fun name name' hlt r hr r' hr' => ?_) h
  obtain ⟨_, -, rfl⟩ := reportOf?_eq_some_iff.1 hr
  obtain ⟨_, -, rfl⟩ := reportOf?_eq_some_iff.1 hr'
  exact hlt

theorem mem_reports_iff {map : MetricMap} :
    (name, map) ∈ names.filterMap w.reportOf? ↔
      name ∈ names ∧ ∃ metrics, w.metricsOf name = .ok metrics ∧ map = .ofMetrics metrics := by
  rw [List.mem_filterMap]
  constructor
  · rintro ⟨name', hname, hreport⟩
    obtain ⟨metrics, hmetrics, heq⟩ := reportOf?_eq_some_iff.1 hreport
    obtain ⟨rfl, rfl⟩ := Prod.mk.inj heq
    exact ⟨hname, metrics, hmetrics, rfl⟩
  · rintro ⟨hname, metrics, hmetrics, rfl⟩
    exact ⟨name, hname, reportOf?_eq_some_iff.2 ⟨metrics, hmetrics, rfl⟩⟩

/-- A scan goes on after archives that cannot be read, if none is refused. -/
theorem run_processExisting_of_expected (hnames : archives w.files w.folder = .ok names)
    (hexpected : ∀ name ∈ names, ∀ e, w.metricsOf name = .error e → e.isExpected = true) :
    ∃ w', processExisting.run w = .ok () w' ∧
      w'.reports = w.reports ++ names.filterMap w.reportOf? := by
  refine run_processExisting_of_not_refused hnames fun name hname r hr => ?_
  have hrefused : w.metricsOf name = .error (.refused r) :=
    Collector.outcome_metrics_eq_refused_iff.2 hr
  exact Bool.false_ne_true (hexpected name hname _ hrefused)

theorem run_processExisting_of_no_folder (h : w.files.isFolder w.folder = false) :
    processExisting.run w = .error (.noFolder w.folder) w := by
  have harchives : archives w.files w.folder = .error (.noFolder w.folder) :=
    if_neg (by simp [h])
  unfold processExisting
  rw [EStateM.run_bind, EStateM.run_get]
  dsimp only
  rw [harchives]
  rfl

/-- A scan of a folder that is there, whose archives can be read or are passed over, adds to the
reports just those of the archives that can be read, each with its own metric map and in strictly
ascending order of the names.  Any watcher of the folder adds the same, whatever it took up before
and in whatever order the names are listed, and the map of an archive comes from its own file.  If
the folder is not there the scan fails and changes nothing. -/
theorem scan_reports_readable (w : Watcher) :
    (w.files.isFolder w.folder = true →
      (∀ name, IsListed w.files w.folder name →
        ∀ e, w.metricsOf name = .error e → e.isExpected = true) →
      ∃ reports : List (String × MetricMap),
        (∃ w', processExisting.run w = .ok () w' ∧ w'.reports = w.reports ++ reports) ∧
        (reports.map Prod.fst).Pairwise (· < ·) ∧
        (∀ name map, (name, map) ∈ reports ↔ IsListed w.files w.folder name ∧
          ∃ metrics, w.metricsOf name = .ok metrics ∧ map = .ofMetrics metrics) ∧
        ∀ w₁ : Watcher, w₁.folder = w.folder → Files.Alike w.files w₁.files →
          ∃ w₁', processExisting.run w₁ = .ok () w₁' ∧ w₁'.reports = w₁.reports ++ reports) ∧
    (∀ (w₁ : Watcher) name, w₁.folder = w.folder →
      w₁.files.content? (Path.join w.folder name) = w.files.content? (Path.join w.folder name) →
        w₁.metricsOf name = w.metricsOf name) ∧
    (w.files.isFolder w.folder = false →
      processExisting.run w = .error (.noFolder w.folder) w) := by
  refine ⟨fun hfolder hexpected => ?_, fun w₁ name => metricsOf_eq_of_content?,
    run_processExisting_of_no_folder⟩
  obtain ⟨names, hnames, hsorted, hmem⟩ := exists_archives_eq_ok hfolder
  have hexpected : ∀ name ∈ names, ∀ e, w.metricsOf name = .error e → e.isExpected = true :=
    fun name hname => hexpected name ((hmem name).1 hname)
  refine ⟨names.filterMap w.reportOf?, run_processExisting_of_expected hnames hexpected,
    pairwise_reports hsorted, fun name map => by rw [mem_reports_iff, hmem], ?_⟩
  intro w₁ hfolder₁ halike
  have hmetrics : ∀ name, w₁.metricsOf name = w.metricsOf name :=
    fun name => metricsOf_eq_of_content? hfolder₁ (congrFun halike.content?_eq _)
  have hreports : w₁.reportOf? = w.reportOf? := funext fun name => reportOf?_congr (hmetrics name)
  rw [← hreports]
  refine run_processExisting_of_expected ?_ fun name hname e he => ?_
  · rw [hfolder₁, archives_eq_of_alike halike, hnames]
  · exact hexpected name hname e (hmetrics name ▸ he)

/-- A watcher of a folder whose names are not listed in order: of two archives that can be read, one
without bytes, a folder and a file with another name. -/
def unorderedWatcher : Watcher :=
  .ofFolder "r"
    ⟨Table.ofList [(["r"], .folder), (["r", "bugreport-d.zip"], .folder),
      (["r", "bugreport-c.zip"], .file shortArchive), (["r", "bugreport-b.zip"], .file []),
      (["r", "notes.zip"], .file shortArchive), (["r", "bugreport-a.zip"], .file shortArchive)]⟩
    (.ofDecimal false 1000 0)

theorem unordered_reported_in_order :
    (∃ w' reports, processExisting.run unorderedWatcher = .ok () w' ∧ w'.reports = reports ∧
      reports.map Prod.fst = ["bugreport-a.zip", "bugreport-c.zip"] ∧
      (reports.map Prod.fst).Pairwise (· < ·) ∧
      ∀ map, ("bugreport-b.zip", map) ∉ reports) ∧
    processExisting.run { unorderedWatcher with folder := "s" } =
      .error (.noFolder "s") { unorderedWatcher with folder := "s" } := by
  have hfolder : unorderedWatcher.files.isFolder unorderedWatcher.folder = true := by
    decide +kernel
  have hstop : ∀ name ∈ unorderedWatcher.files.names unorderedWatcher.folder,
      unorderedWatcher.stop? name = none := by
    decide +kernel
  have hflawed : unorderedWatcher.metricsOf "bugreport-b.zip" =
      .error (.corrupt "r/bugreport-b.zip" .noDirectory) := by
    decide +kernel
  have hnames : (endOf (processExisting.run unorderedWatcher)).reports.map Prod.fst =
      ["bugreport-a.zip", "bugreport-c.zip"] := by
    decide +kernel
  constructor
  · obtain ⟨reports, ⟨w', hrun, hreports⟩, hsorted, hmem, -⟩ :=
      (scan_reports_readable unorderedWatcher).1 hfolder fun name hlisted e he => by
        have hnone := hstop name hlisted.inside
        unfold stop? at hnone
        rw [he] at hnone
        by_contra hunexpected
        simp [hunexpected] at hnone
    rw [hrun] at hnames
    change w'.reports = [] ++ reports at hreports
    rw [List.nil_append] at hreports
    refine ⟨w', reports, hrun, hreports, hreports ▸ hnames, hsorted, fun map hmap => ?_⟩
    obtain ⟨-, metrics, hmetrics, -⟩ := (hmem _ _).1 hmap
    cases hflawed.symm.trans hmetrics
  · exact (scan_reports_readable { unorderedWatcher with folder := "s" }).2.2 (by decide +kernel)

end Watcher

end SectionTimes
