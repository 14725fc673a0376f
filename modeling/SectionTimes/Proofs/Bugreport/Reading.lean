import SectionTimes.Collector
import SectionTimes.Proofs.Duration.MetricMap
import SectionTimes.Proofs.Log

/-!
# What reading gives

What is read of an archive, and whether it can be read, depends on the files alone and not on
what was noted before.  It is said here for each step what it gives, or why it fails.
-/

namespace SectionTimes

namespace Bugreport

open Logged

theorem isSteady_ofZip {α : Type} (path : String) (r : Except Zip.Failure α) :
    IsSteady (ofZip path r) := by
  cases r with
  | ok a => exact isSteady_pure a
  | error e => exact isSteady_throw _

theorem isSteady_chooseEntry (names : List String) (archive : String) :
    IsSteady (chooseEntry names archive) := by
  unfold chooseEntry
  split
  · exact isSteady_throw _
  · split
    · exact (isSteady_note _ _).bind fun _ => isSteady_pure _
    · exact isSteady_pure _

theorem isSteady_lines (files : Files) (folder archive : String) :
    IsSteady (lines files folder archive) := by
  unfold lines
  dsimp only
  split
  · exact isSteady_throw _
  · exact (isSteady_ofZip _ _).bind fun _ => (isSteady_chooseEntry _ _).bind fun _ =>
      (isSteady_ofZip _ _).bind fun _ => isSteady_pure _

theorem isSteady_newest (files : Files) (folder : String) : IsSteady (newest files folder) := by
  unfold newest
  refine (isSteady_ofExcept _).bind fun names => ?_
  cases names.getLast? with
  | none => exact isSteady_throw _
  | some name => exact (isSteady_note _ _).bind fun _ => isSteady_pure _

/-! ## What is read -/

variable {files : Files} {folder archive : String}

theorem outcome_ofZip {α : Type} (path : String) (x : Except Zip.Failure α) :
    (ofZip path x).outcome = x.mapError (ofZipFailure path) := by
  cases x <;> rfl

theorem outcome_chooseEntry (names : List String) (archive : String) :
    (chooseEntry names archive).outcome =
      match reportEntry? names archive with
      | none => .error (.noEntry archive)
      | some entry => .ok entry := by
  unfold chooseEntry
  cases reportEntry? names archive with
  | none => rfl
  | some entry =>
    dsimp only
    split <;> rfl

/-- The lines of a report, or why there are none. -/
theorem outcome_lines (files : Files) (folder archive : String) :
    (lines files folder archive).outcome =
      match files.content? (Path.join folder archive) with
      | none => .error (.noArchive (Path.join folder archive))
      | some bytes =>
        match Zip.Archive.ofBytes bytes with
        | .error e => .error (ofZipFailure (Path.join folder archive) e)
        | .ok zip =>
          match reportEntry? zip.names archive with
          | none => .error (.noEntry archive)
          | some entry =>
            match zip.read entry with
            | .error e => .error (ofZipFailure (Path.join folder archive) e)
            | .ok content => .ok (linesOf content) := by
  unfold lines
  dsimp only
  cases files.content? (Path.join folder archive) with
  | none => rfl
  | some bytes =>
    dsimp only
    rw [outcome_bind fun _ => (isSteady_chooseEntry _ _).bind fun _ =>
      (isSteady_ofZip _ _).bind fun _ => isSteady_pure _, outcome_ofZip]
    cases Zip.Archive.ofBytes bytes with
    | error e => rfl
    | ok zip =>
      dsimp only [Except.mapError]
      rw [outcome_bind fun _ => (isSteady_ofZip _ _).bind fun _ => isSteady_pure _,
        outcome_chooseEntry]
      cases reportEntry? zip.names archive with
      | none => rfl
      | some entry =>
        dsimp only
        rw [outcome_bind fun _ => isSteady_pure _, outcome_ofZip]
        cases zip.read entry <;> rfl

theorem outcome_newest (files : Files) (folder : String) :
    (newest files folder).outcome =
      match archives files folder with
      | .error e => .error e
      | .ok names =>
        match names.getLast? with
        | none => .error (.noArchives folder)
        | some archive => .ok archive := by
  unfold newest
  refine (outcome_bind fun names => ?_).trans ?_
  · cases names.getLast? with
    | none => exact isSteady_throw _
    | some name => exact (isSteady_note _ _).bind fun _ => isSteady_pure _
  · rw [outcome_ofExcept]
    cases archives files folder with
    | error e => rfl
    | ok names =>
      dsimp only
      cases names.getLast? <;> rfl

theorem archives_eq_error_iff {e : ReadFailure} :
    archives files folder = .error e ↔ files.isFolder folder = false ∧ e = .noFolder folder := by
  unfold archives
  cases files.isFolder folder <;> simp [eq_comm]

/-- The newest archive is the last one of the archives in ascending order. -/
theorem outcome_newest_eq_ok_iff :
    (newest files folder).outcome = .ok archive ↔
      ∃ names, archives files folder = .ok (names ++ [archive]) := by
  rw [outcome_newest]
  cases archives files folder with
  | error e => simp
  | ok names =>
    simp only [Except.ok.injEq, ← List.getLast?_eq_some_iff]
    cases names.getLast? <;> simp

end Bugreport

namespace Collector

open Bugreport Logged

variable (c : Collector) (files : Files) (archive : String)

theorem isSteady_durationLines : IsSteady (c.durationLines files archive) :=
  (isSteady_lines _ _ _).bind fun _ => isSteady_pure _

theorem isSteady_metricsOf : IsSteady (c.metricsOf files archive) :=
  (isSteady_durationLines _ _ _).bind fun _ => (isSteady_note _ _).bind fun _ => isSteady_pure _

theorem isSteady_metrics (archive : Option String) : IsSteady (c.metrics files archive) := by
  unfold metrics
  cases archive with
  | some archive => exact isSteady_metricsOf c files archive
  | none => exact (isSteady_newest _ _).bind fun _ => isSteady_metricsOf c files _

theorem outcome_metricsOf (c : Collector) (files : Files) (archive : String) :
    (c.metricsOf files archive).outcome =
      (lines files c.folder archive).outcome.map Metric.ofReport := by
  unfold metricsOf
  rw [outcome_bind fun _ => (isSteady_note _ _).bind fun _ => isSteady_pure _]
  unfold durationLines
  rw [outcome_bind fun _ => isSteady_pure _]
  cases (lines files c.folder archive).outcome <;> rfl

theorem outcome_metrics_none (c : Collector) (files : Files) :
    (c.metrics files none).outcome =
      match (newest files c.folder).outcome with
      | .ok archive => (c.metricsOf files archive).outcome
      | .error e => .error e := by
  change (newest files c.folder >>= c.metricsOf files).outcome = _
  rw [outcome_bind (isSteady_metricsOf c files)]
  cases (newest files c.folder).outcome <;> rfl

/-- Collecting fails with what is not expected, and gives an empty map after what is. -/
theorem run_collect_eq (c : Collector) (files : Files) (log : Log) :
    ∃ log', (c.collect files).run log =
      match (c.metrics files none).outcome with
      | .ok metrics => .ok (.ofMetrics metrics) log'
      | .error e => if e.isExpected then .ok .empty log' else .error e log' := by
  obtain ⟨log', h⟩ := c.isSteady_metrics files none log
  unfold collect
  rw [run_tryCatch, EStateM.run_bind, h]
  cases (c.metrics files none).outcome with
  | ok metrics => exact ⟨log', rfl⟩
  | error e =>
    dsimp only
    cases e.isExpected with
    | true => exact ⟨_, rfl⟩
    | false => exact ⟨log', rfl⟩

end Collector

end SectionTimes
