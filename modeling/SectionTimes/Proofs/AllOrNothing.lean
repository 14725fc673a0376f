import SectionTimes.Proofs.Collector
import SectionTimes.Proofs.CommandLine.Durations
import SectionTimes.Proofs.Watcher.Stopping

/-!
# All of a report or nothing

A report is had from an archive as a whole or not at all.  Lines come out of it before its checksum
is known, but nobody takes them further until all of them have come and the checksum was compared.
-/

namespace SectionTimes

open Bugreport CommandLine

/-- If the newest report is damaged, the map that is collected is empty. -/
theorem Collector.run_collect_of_isDamaged {c : Collector} {files : Files} {archive : String}
    {damage : Zip.Damage} (hasked : IsAsked files c.folder none archive)
    (hdamaged : IsDamaged files c.folder archive damage) (log : Log) :
    ∃ log', (c.collect files).run log = .ok .empty log' :=
  run_collect_of_error (outcome_metrics_of_isDamaged hasked hdamaged) nofun

/-- Nothing comes of a damaged report, whether it is asked for, collected, processed, come upon in
an event or reported by the program.  What comes of a report is read from all the bytes that it
delivers, and these have the checksum listed. -/
theorem all_or_nothing :
    -- damaged reports
    (∀ (c : Collector) files named archive damage log,
      IsAsked files c.folder named archive → IsDamaged files c.folder archive damage →
        (∃ log', (c.metrics files named).run log =
          .error (.corrupt (Path.join c.folder archive) damage) log') ∧
        (named = none → ∃ log', (c.collect files).run log = .ok .empty log')) ∧
    (∀ (w : Watcher) archive damage, IsDamaged w.files w.folder archive damage →
      (∃ log, (Watcher.process archive).run w = .ok none { w with log }) ∧
      ∀ e : Event, e.path?.map Path.baseName = some archive →
        ∃ log, (Watcher.handle e).run w = .ok () { w with log }) ∧
    (∀ words environment changes s a config format s' folder archive damage,
      Durations.rules.read words = .ok (.work a) → a.has "watch" = false →
      (Durations.prepare a environment).run s = .ok (config, format) s' →
      config.folder.text? = some folder →
      IsAsked s'.link.files folder (a.text? "archive") archive →
      IsDamaged s'.link.files folder archive damage →
        ((Durations.run words environment changes).outcome s).exitCode? = some 1 ∧
        ((Durations.run words environment changes).outcome s).outputLines = s.printed) ∧
    -- whatever comes of reports
    (∀ (c : Collector) files named metrics log log',
      (c.metrics files named).run log = .ok metrics log' →
        ∃ archive bytes, IsAsked files c.folder named archive ∧
          IsIntact files c.folder archive bytes ∧ metrics = Metric.ofContent bytes) ∧
    (∀ (c : Collector) files map log log', (c.collect files).run log = .ok map log' →
      map = .empty ∨ ∃ archive bytes, IsAsked files c.folder none archive ∧
        IsIntact files c.folder archive bytes ∧ map = .ofMetrics (Metric.ofContent bytes)) ∧
    (∀ w archive map w', (Watcher.process archive).run w = .ok (some map) w' →
      w'.reports = w.reports ++ [(archive, map)] ∧
        ∃ bytes, IsIntact w.files w.folder archive bytes ∧
          map = .ofMetrics (Metric.ofContent bytes)) ∧
    (∀ (w : Watcher) acts, ∀ m ∈ w.stages acts, ∀ r ∈ m.reported,
      ∃ bytes, IsIntact m.watcher.files m.watcher.folder r.1 bytes ∧
        r.2 = .ofMetrics (Metric.ofContent bytes)) ∧
    (∀ words environment changes s a,
      Durations.rules.read words = .ok (.work a) → a.has "watch" = false →
      let o := (Durations.run words environment changes).outcome s
      o.exitCode? ≠ some 0 ∧ o.outputLines = s.printed ∨
        o.exitCode? = some 0 ∧ ∃ config format s' folder archive bytes,
          (Durations.prepare a environment).run s = .ok (config, format) s' ∧
          config.folder.text? = some folder ∧
          IsAsked s'.link.files folder (a.text? "archive") archive ∧
          IsIntact s'.link.files folder archive bytes ∧
          o.outputLines =
            s.printed ++ Durations.shownLines a config format (Metric.ofContent bytes)) ∧
    (∀ words environment changes,
      Prints Durations.IsShown (Durations.run words environment changes)) ∧
    -- what is delivered
    ∀ (zip : Zip.Archive) before e bytes, zip.deliver before e = .ok bytes →
      ∃ (packing : Zip.Packing) (packed : List UInt8) (d : Zip.Delivery),
        zip.openEntry before e = .ok (packing, packed) ∧
        bytes =
          (((packing.outcome packed).made.toList.take d.made).take e.size).map
            Unpacking.Made.byte ∧
        (d.isOver = true ∨ e.size ≤ d.made) := by
  refine ⟨?_, ?_, ?_, fun c files named metrics log log' h => ?_,
    fun c files map log log' h => Collector.map_of_run_collect h,
    fun w archive map w' h => Watcher.run_process_eq_some h,
    fun w acts m _ r h => Stage.exists_isIntact h,
    fun words environment changes s a h hwatch => Durations.outcome_cases h hwatch changes s,
    Durations.prints_run, fun zip before e bytes h => Zip.exists_ended_of_deliver h⟩
  · intro c files named archive damage log hasked hdamaged
    refine ⟨Collector.run_metrics_of_isDamaged hasked hdamaged log, ?_⟩
    rintro rfl
    exact Collector.run_collect_of_isDamaged hasked hdamaged log
  · intro w archive damage hdamaged
    exact ⟨Watcher.run_process_of_isDamaged hdamaged,
      fun e hpath => Watcher.run_handle_of_isDamaged hpath hdamaged⟩
  · intro words environment changes s a config format s' folder archive damage h hwatch hprepare
      hfolder hasked hdamaged
    exact Durations.outcome_of_isDamaged h hwatch hprepare hfolder hasked hdamaged
  · exact Collector.exists_isIntact_of_outcome (Collector.outcome_of_run h)

/-- The short archive with its first byte of data changed. -/
def flawedArchive : List UInt8 := shortArchive.set 45 61

/-- Its only entry. -/
def flawedEntry : Zip.Entry :=
  ⟨"bugreport-a.txt", "bugreport-a.txt", 0, 0, 2596870612, 56, 56, 0⟩

/-- A folder with that archive. -/
def flawedFiles : Files :=
  ⟨Table.ofList [(["r"], .folder), (["r", "bugreport-a.zip"], .file flawedArchive)]⟩

theorem isDamaged_flawed :
    IsDamaged flawedFiles "r" "bugreport-a.zip" (.checksum "bugreport-a.txt") := by
  have hzip : Zip.Archive.ofBytes flawedArchive = .ok ⟨flawedArchive, 101, [flawedEntry]⟩ := by
    decide +kernel
  have hentry : IsReportEntry flawedFiles "r" "bugreport-a.zip"
      ⟨flawedArchive, 101, [flawedEntry]⟩ [] flawedEntry :=
    ⟨⟨flawedArchive, by decide +kernel, hzip⟩, "bugreport-a.txt", by decide +kernel,
      by decide +kernel⟩
  have hdeliver : Zip.Archive.deliver ⟨flawedArchive, 101, [flawedEntry]⟩ [] flawedEntry =
      .ok ((flawedArchive.drop 45).take 56) := by
    decide +kernel
  exact .checksum hentry hdeliver (by decide +kernel)

/-- A watcher of that folder. -/
def flawedWatcher : Watcher := .ofFolder "r" flawedFiles .zero

/-- The flawed archive gives nothing, whereas the short one gives its line. -/
theorem nothing_of_flawed_all_of_short :
    let damage : Zip.Damage := .checksum "bugreport-a.txt"
    let closed : Event := ⟨.closed, "r/bugreport-a.zip", "", false⟩
    let outcome (files : Files) := (Durations.run ["--dir", "r"] .empty []).outcome
      (.start files [] .zero)
    ((∃ log, (Collector.metrics ⟨"r"⟩ flawedFiles none).run [] =
        .error (.corrupt "r/bugreport-a.zip" damage) log) ∧
      (∃ log, (Collector.collect ⟨"r"⟩ flawedFiles).run [] = .ok .empty log) ∧
      (∃ log, (Watcher.process "bugreport-a.zip").run flawedWatcher =
        .ok none { flawedWatcher with log }) ∧
      (∃ log, (Watcher.handle closed).run flawedWatcher = .ok () { flawedWatcher with log }) ∧
      (outcome flawedFiles).exitCode? = some 1 ∧ (outcome flawedFiles).outputLines = []) ∧
    (∃ log bytes, (Collector.metrics ⟨"r"⟩ shortFiles (some "bugreport-a.zip")).run [] =
        .ok (Metric.ofContent bytes) log ∧
      Metric.ofContent bytes ≠ [] ∧ IsIntact shortFiles "r" "bugreport-a.zip" bytes) ∧
    (outcome shortFiles).exitCode? = some 0 ∧ ∃ a config format s' folder archive bytes,
      (Durations.prepare a .empty).run (.start shortFiles [] .zero) = .ok (config, format) s' ∧
      IsIntact s'.link.files folder archive bytes ∧
      (outcome shortFiles).outputLines =
        Durations.shownLines a config format (Metric.ofContent bytes) := by
  intro damage closed outcome
  obtain ⟨hcollector, hwatcher, hprogram, hmetricsOf, -, -, -, houtcome, -, -⟩ := all_or_nothing
  let a : Arguments := ⟨.ofList [("dir", .text "r")], []⟩
  have hread : Durations.rules.read ["--dir", "r"] = .ok (.work a) := rfl
  have hnewest : (newest flawedFiles "r").outcome = .ok "bugreport-a.zip" := by decide +kernel
  have hpath : Path.join "r" "bugreport-a.zip" = "r/bugreport-a.zip" := by decide +kernel
  have hdamaged := isDamaged_flawed
  obtain ⟨hmetrics, hcollect⟩ := hcollector ⟨"r"⟩ flawedFiles none _ damage [] hnewest hdamaged
  obtain ⟨hprocess, hhandle⟩ := hwatcher flawedWatcher "bugreport-a.zip" damage hdamaged
  rw [hpath] at hmetrics
  refine ⟨⟨hmetrics, hcollect rfl, hprocess, hhandle closed (by decide +kernel), ?_⟩, ?_, ?_⟩
  · obtain ⟨config, format, s', hprepare, hfolder, hfiles⟩ : ∃ config format s',
        (Durations.prepare a .empty).run (.start flawedFiles [] .zero) = .ok (config, format) s' ∧
        config.folder.text? = some "r" ∧ s'.link.files = flawedFiles :=
      ⟨_, _, _, rfl, rfl, rfl⟩
    rw [← hfiles] at hnewest hdamaged
    exact hprogram _ .empty [] _ a config format s' "r" _ _ hread rfl hprepare hfolder hnewest
      hdamaged
  · have hlength : (match (Collector.metrics ⟨"r"⟩ shortFiles (some "bugreport-a.zip")).run [] with
        | .ok metrics _ => metrics.length
        | .error .. => 0) = 1 := by
      decide +kernel
    cases hshort : (Collector.metrics ⟨"r"⟩ shortFiles (some "bugreport-a.zip")).run [] with
    | error e log =>
      rw [hshort] at hlength
      cases hlength
    | ok metrics log =>
      rw [hshort] at hlength
      obtain ⟨archive, bytes, hasked, hintact, rfl⟩ := hmetricsOf ⟨"r"⟩ _ _ _ _ _ hshort
      obtain rfl : "bugreport-a.zip" = archive := hasked
      exact ⟨log, bytes, rfl, List.ne_nil_of_length_eq_add_one hlength, hintact⟩
  · have hexit : (outcome shortFiles).exitCode? = some 0 := by decide +kernel
    rcases houtcome ["--dir", "r"] .empty [] (.start shortFiles [] .zero) a hread rfl with
      ⟨hfailed, -⟩ | ⟨-, config, format, s', folder, archive, bytes, hprepare, -, -, hintact, ho⟩
    · exact absurd hexit hfailed
    · exact ⟨hexit, a, config, format, s', folder, archive, bytes, hprepare, hintact, ho⟩

end SectionTimes
