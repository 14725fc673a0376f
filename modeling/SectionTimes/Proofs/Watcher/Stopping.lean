import SectionTimes.Proofs.Bugreport.Refusal
import SectionTimes.Proofs.Watcher.Spacing

/-!
# What stops a collector

Nothing that an archive holds, and no damage to it, stops a collector or a watcher, unless the
archive is given up: it may be encrypted, packed by an unknown method, or name a member in what is
not UTF-8, and data packed with bzip2 or LZMA may be faulty.  Collecting, processing and scanning
then fail, and a scan does not come to the archives behind it.
-/

namespace SectionTimes

open Bugreport Logged

/-! ## Collecting -/

namespace Collector

variable {c : Collector} {files : Files}

/-- The metrics of the newest archive are refused just when that archive is. -/
theorem outcome_metrics_none_eq_refused_iff {r : Zip.Refusal} :
    (c.metrics files none).outcome = .error (.refused r) ↔
      ∃ names archive, archives files c.folder = .ok (names ++ [archive]) ∧
        Refuses files c.folder archive r := by
  rw [outcome_metrics_none]
  constructor
  · intro h
    split at h
    · rename_i archive hnewest
      obtain ⟨names, hnames⟩ := outcome_newest_eq_ok_iff.1 hnewest
      exact ⟨names, archive, hnames, outcome_metrics_eq_refused_iff.1 h⟩
    · rename_i e hnewest
      cases h
      exact absurd hnewest outcome_newest_ne_refused
  · rintro ⟨names, archive, hnames, hrefuses⟩
    rw [outcome_newest_eq_ok_iff.2 ⟨names, hnames⟩]
    exact outcome_metrics_eq_refused_iff.2 hrefuses

/-- Collecting fails just when the newest archive is refused. -/
theorem run_collect_eq_error_iff {log : Log} {e : ReadFailure} :
    (∃ log', (c.collect files).run log = .error e log') ↔
      ∃ names archive r, archives files c.folder = .ok (names ++ [archive]) ∧
        Refuses files c.folder archive r ∧ e = .refused r := by
  obtain ⟨log₁, hrun⟩ := c.run_collect_eq files log
  rw [hrun]
  constructor
  · rintro ⟨log', h⟩
    split at h
    · cases h
    · rename_i e' houtcome
      split at h
      · cases h
      · rename_i hunexpected
        obtain ⟨r, rfl⟩ := isExpected_eq_false_iff.1 (Bool.eq_false_iff.2 hunexpected)
        obtain ⟨names, archive, hnames, hrefuses⟩ := outcome_metrics_none_eq_refused_iff.1 houtcome
        cases h
        exact ⟨names, archive, r, hnames, hrefuses, rfl⟩
  · rintro ⟨names, archive, r, hnames, hrefuses, rfl⟩
    rw [outcome_metrics_none_eq_refused_iff.2 ⟨names, archive, hnames, hrefuses⟩]
    exact ⟨log₁, rfl⟩

/-- Collecting gives a map unless the newest archive is refused. -/
theorem exists_run_collect {log : Log}
    (h : ∀ names archive r, archives files c.folder = .ok (names ++ [archive]) →
      ¬ Refuses files c.folder archive r) :
    ∃ metrics log', (c.collect files).run log = .ok metrics log' := by
  cases hrun : (c.collect files).run log with
  | ok metrics log' => exact ⟨metrics, log', rfl⟩
  | error e log' =>
    obtain ⟨names, archive, r, hnames, hrefuses, -⟩ := run_collect_eq_error_iff.1 ⟨log', hrun⟩
    exact absurd hrefuses (h names archive r hnames)

/-- If the newest archive cannot be read but is not refused, then the map is empty. -/
theorem run_collect_of_error {log : Log} {e : ReadFailure}
    (houtcome : (c.metrics files none).outcome = .error e) (he : ∀ r, e ≠ .refused r) :
    ∃ log', (c.collect files).run log = .ok .empty log' := by
  obtain ⟨log', hrun⟩ := c.run_collect_eq files log
  refine ⟨log', ?_⟩
  have hexpected : e.isExpected = true := by
    by_contra h
    obtain ⟨r, hr⟩ := isExpected_eq_false_iff.1 (Bool.eq_false_iff.2 h)
    exact he r hr
  rw [hrun, houtcome]
  exact if_pos hexpected

end Collector

/-! ## Processing -/

namespace Watcher

variable {w : Watcher} {archive : String} {e : ReadFailure}

/-- Work stops just at archives that are refused. -/
theorem stop?_eq_some_iff :
    w.stop? archive = some e ↔ ∃ r, Refuses w.files w.folder archive r ∧ e = .refused r := by
  have hrefuses : ∀ r, w.metricsOf archive = .error (.refused r) ↔
      Refuses w.files w.folder archive r := fun _ => Collector.outcome_metrics_eq_refused_iff
  unfold stop?
  constructor
  · intro h
    split at h
    · cases h
    · rename_i e' hmetrics
      split at h
      · cases h
      · rename_i hunexpected
        obtain ⟨r, rfl⟩ := isExpected_eq_false_iff.1 (Bool.eq_false_iff.2 hunexpected)
        exact ⟨r, (hrefuses r).1 hmetrics, (Option.some.inj h).symm⟩
  · rintro ⟨r, h, rfl⟩
    rw [(hrefuses r).2 h]
    rfl

theorem stop?_eq_none_iff :
    w.stop? archive = none ↔ ∀ r, ¬ Refuses w.files w.folder archive r := by
  rw [Option.eq_none_iff_forall_ne_some]
  constructor
  · intro h r hr
    exact h _ (stop?_eq_some_iff.2 ⟨r, hr, rfl⟩)
  · intro h e he
    obtain ⟨r, hr, -⟩ := stop?_eq_some_iff.1 he
    exact h r hr

/-- Processing fails just when the archive is refused. -/
theorem run_process_eq_error_iff :
    (∃ w', (process archive).run w = .error e w') ↔
      ∃ r, Refuses w.files w.folder archive r ∧ e = .refused r := by
  obtain ⟨log, h⟩ := w.run_process archive
  rw [h, exists_endedBy_eq_error_iff, stop?_eq_some_iff]

/-- Processing gives what was reported unless the archive is refused. -/
theorem exists_run_process (h : ∀ r, ¬ Refuses w.files w.folder archive r) :
    ∃ w', (process archive).run w = .ok (w.mapOf? archive) w' := by
  obtain ⟨log, hrun⟩ := w.run_process archive
  rw [stop?_eq_none_iff.2 h] at hrun
  exact ⟨_, hrun⟩

/-- An archive that cannot be read but is not refused gives nothing. -/
theorem run_process_of_error (hmetrics : w.metricsOf archive = .error e)
    (he : ∀ r, e ≠ .refused r) : ∃ w', (process archive).run w = .ok none w' := by
  have hmap : w.mapOf? archive = none := by
    unfold mapOf?
    rw [hmetrics]
    rfl
  rw [← hmap]
  refine exists_run_process fun r hr => he r ?_
  exact Except.error.inj (hmetrics.symm.trans (Collector.outcome_metrics_eq_refused_iff.2 hr))

/-! ## Scanning -/

/-- A scan reports all archives that can be read if none is refused. -/
theorem run_processExisting_of_not_refused {names : List String}
    (hnames : archives w.files w.folder = .ok names)
    (h : ∀ name ∈ names, ∀ r, ¬ Refuses w.files w.folder name r) :
    ∃ w', processExisting.run w = .ok () w' ∧
      w'.reports = w.reports ++ names.filterMap w.reportOf? := by
  obtain ⟨log, hrun⟩ := w.run_processExisting
  have hstop : w.scanStop? = none := by
    unfold scanStop?
    rw [hnames]
    exact List.findSome?_eq_none_iff.2 fun name hname => stop?_eq_none_iff.2 (h name hname)
  have hscanned : w.scanned = names := by
    unfold scanned
    rw [hnames]
    refine begun_eq_self fun name hname => ?_
    rw [stop?_eq_none_iff.2 (h name hname)]
    rfl
  rw [hstop, hscanned] at hrun
  exact ⟨_, hrun, rfl⟩

/-- A scan ends at the first archive that is refused. -/
theorem run_processExisting_of_refused {before behind : List String} {r : Zip.Refusal}
    (hnames : archives w.files w.folder = .ok (before ++ archive :: behind))
    (hbefore : ∀ name ∈ before, ∀ r, ¬ Refuses w.files w.folder name r)
    (harchive : Refuses w.files w.folder archive r) :
    ∃ w', processExisting.run w = .error (.refused r) w' ∧
      w'.reports = w.reports ++ before.filterMap w.reportOf? := by
  obtain ⟨log, hrun⟩ := w.run_processExisting
  -- the archive is begun and the time for it remembered, but it has no report
  have harchive : w.stop? archive = some (.refused r) := stop?_eq_some_iff.2 ⟨r, harchive, rfl⟩
  have hbefore : ∀ name ∈ before, w.stop? name = none :=
    fun name hname => stop?_eq_none_iff.2 (hbefore name hname)
  have hstop : w.scanStop? = some (.refused r) := by
    unfold scanStop?
    rw [hnames]
    exact List.findSome?_eq_some_iff.2 ⟨before, archive, behind, rfl, harchive, hbefore⟩
  have hscanned : w.scanned = before ++ [archive] := by
    unfold scanned
    rw [hnames]
    refine begun_append (fun name hname => ?_) ?_
    · rw [hbefore name hname]
      rfl
    · rw [harchive]
      rfl
  have hreport : w.reportOf? archive = none := by
    unfold reportOf?
    rw [mapOf?_eq_none_of_stop? harchive]
    rfl
  rw [hstop, hscanned] at hrun
  refine ⟨_, hrun, ?_⟩
  change w.reports ++ (before ++ [archive]).filterMap w.reportOf? = _
  rw [List.filterMap_append, List.filterMap_cons, hreport, List.filterMap_nil, List.append_nil]

end Watcher

/-- Collecting and processing fail just when the archive that they read is refused.  Otherwise they
give a map, and an empty one or none where the archive cannot be read.  A scan comes to all archives
if none is refused, and ends at the first one that is.  An archive is refused only where its
directory or the member that is read gives a ground for it. -/
theorem fails_just_when_refused (w : Watcher) (log : Log) :
    (((∀ names archive r, archives w.files w.folder = .ok (names ++ [archive]) →
          ¬ Refuses w.files w.folder archive r) →
        ∃ metrics log', (Collector.collect ⟨w.folder⟩ w.files).run log = .ok metrics log') ∧
      ∀ e, ((∃ log', (Collector.collect ⟨w.folder⟩ w.files).run log = .error e log') ↔
          ∃ names archive r, archives w.files w.folder = .ok (names ++ [archive]) ∧
            Refuses w.files w.folder archive r ∧ e = .refused r) ∧
        ((Collector.metrics ⟨w.folder⟩ w.files none).outcome = .error e →
          (∀ r, e ≠ .refused r) →
            ∃ log', (Collector.collect ⟨w.folder⟩ w.files).run log = .ok .empty log')) ∧
    (∀ archive,
      ((∀ r, ¬ Refuses w.files w.folder archive r) →
        ∃ w', (Watcher.process archive).run w = .ok (w.mapOf? archive) w') ∧
      ∀ e, ((∃ w', (Watcher.process archive).run w = .error e w') ↔
          ∃ r, Refuses w.files w.folder archive r ∧ e = .refused r) ∧
        (w.metricsOf archive = .error e → (∀ r, e ≠ .refused r) →
          ∃ w', (Watcher.process archive).run w = .ok none w')) ∧
    (∀ names, archives w.files w.folder = .ok names →
      ((∀ name ∈ names, ∀ r, ¬ Refuses w.files w.folder name r) →
        ∃ w', Watcher.processExisting.run w = .ok () w' ∧
          w'.reports = w.reports ++ names.filterMap w.reportOf?) ∧
      ∀ before archive behind r, names = before ++ archive :: behind →
        (∀ name ∈ before, ∀ r, ¬ Refuses w.files w.folder name r) →
        Refuses w.files w.folder archive r →
          ∃ w', Watcher.processExisting.run w = .error (.refused r) w' ∧
            w'.reports = w.reports ++ before.filterMap w.reportOf?) ∧
    ∀ archive r, Refuses w.files w.folder archive r →
      ∃ bytes, w.files.content? (Path.join w.folder archive) = some bytes ∧
        Zip.Grounds bytes r := by
  refine ⟨⟨Collector.exists_run_collect (c := ⟨w.folder⟩), fun e =>
      ⟨Collector.run_collect_eq_error_iff, Collector.run_collect_of_error⟩⟩,
    fun archive => ⟨Watcher.exists_run_process, fun e =>
      ⟨Watcher.run_process_eq_error_iff, Watcher.run_process_of_error⟩⟩, ?_, ?_⟩
  · rintro names hnames
    refine ⟨Watcher.run_processExisting_of_not_refused hnames, ?_⟩
    rintro before archive behind r rfl
    exact Watcher.run_processExisting_of_refused hnames
  · rintro archive r ⟨bytes, hcontent, hrefused⟩
    exact ⟨bytes, hcontent, hrefused.grounds⟩

/-- The short archive with its member marked as encrypted. -/
def lockedArchive : List UInt8 := shortArchive.set 109 1

/-- A folder with that archive alone. -/
def lockedFiles : Files :=
  ⟨Table.ofList [(["r"], .folder), (["r", "bugreport-a.zip"], .file lockedArchive)]⟩

/-- A watcher of a folder with that archive, one that can be read and one without bytes. -/
def mixedWatcher : Watcher :=
  .ofFolder "r"
    ⟨Table.ofList [(["r"], .folder), (["r", "bugreport-a.zip"], .file lockedArchive),
      (["r", "bugreport-b.zip"], .file shortArchive), (["r", "bugreport-c.zip"], .file [])]⟩
    (.ofDecimal false 1000 0)

theorem mixed_stops_at_locked :
    (∃ log, (Collector.collect ⟨"r"⟩ mixedWatcher.files).run [] = .ok .empty log) ∧
      (∃ w', (Watcher.process "bugreport-c.zip").run mixedWatcher = .ok none w') ∧
      (∃ w', (Watcher.process "bugreport-a.zip").run mixedWatcher =
        .error (.refused .password) w') ∧
      (∃ w', Watcher.processExisting.run mixedWatcher = .error (.refused .password) w' ∧
        w'.reports = []) ∧
      Zip.Grounds lockedArchive .password := by
  obtain ⟨hcollect, hprocess, hscan, hgrounds⟩ := fails_just_when_refused mixedWatcher []
  have hnewest : (Collector.metrics ⟨"r"⟩ mixedWatcher.files none).outcome =
      .error (.corrupt "r/bugreport-c.zip" .noDirectory) := by
    decide +kernel
  have hlast : mixedWatcher.metricsOf "bugreport-c.zip" =
      .error (.corrupt "r/bugreport-c.zip" .noDirectory) := by
    decide +kernel
  have hrefuses : Refuses mixedWatcher.files "r" "bugreport-a.zip" .password :=
    Collector.outcome_metrics_eq_refused_iff (c := ⟨"r"⟩).1 (by decide +kernel)
  have hnames : archives mixedWatcher.files "r" =
      .ok ["bugreport-a.zip", "bugreport-b.zip", "bugreport-c.zip"] := by
    decide +kernel
  have hexpected : ∀ r, ReadFailure.corrupt "r/bugreport-c.zip" .noDirectory ≠ .refused r := nofun
  refine ⟨(hcollect.2 _).2 hnewest hexpected, ((hprocess _).2 _).2 hlast hexpected,
    ((hprocess _).2 _).1.2 ⟨_, hrefuses, rfl⟩, ?_, ?_⟩
  · exact (hscan _ hnames).2 [] _ _ _ rfl (fun _ hname => absurd hname List.not_mem_nil) hrefuses
  · obtain ⟨bytes, hcontent, h⟩ := hgrounds _ _ hrefuses
    have hlocked : mixedWatcher.files.content? (Path.join "r" "bugreport-a.zip") =
        some lockedArchive := by
      decide +kernel
    rwa [Option.some.inj (hcontent.symm.trans hlocked)] at h

/-- Collecting fails on an encrypted archive, and so does processing it.  A scan that meets it does
not report the one behind it, which can be read. -/
theorem locked_fails :
    (∃ log, (Collector.collect ⟨"r"⟩ lockedFiles).run [] = .error (.refused .password) log) ∧
      (∃ w', (Watcher.process "bugreport-a.zip").run mixedWatcher =
        .error (.refused .password) w') ∧
      (mixedWatcher.metricsOf "bugreport-b.zip").toOption.isSome = true ∧
      (mixedWatcher.after .scan).reports.isEmpty = true := by
  have hcollect : (Collector.metrics ⟨"r"⟩ lockedFiles none).outcome =
      .error (.refused .password) := by
    decide +kernel
  have hprocess : mixedWatcher.stop? "bugreport-a.zip" = some (.refused .password) := by
    decide +kernel
  refine ⟨?_, ?_, by decide +kernel, by decide +kernel⟩
  · obtain ⟨log, h⟩ := Collector.run_collect_eq ⟨"r"⟩ lockedFiles []
    rw [hcollect] at h
    exact ⟨log, h⟩
  · obtain ⟨log, h⟩ := mixedWatcher.run_process "bugreport-a.zip"
    rw [hprocess] at h
    exact ⟨_, h⟩

end SectionTimes
