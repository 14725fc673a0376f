import SectionTimes.Proofs.Bugreport.Intact
import SectionTimes.Proofs.Watcher.Stage

/-!
# What a watcher makes of damaged reports

A damaged report is passed over: nothing of it is reported, and no time is remembered for it.  What
a watcher reports was read from an intact report.
-/

namespace SectionTimes

open Bugreport

/-- What is reported of an archive is the map of a report that was intact. -/
def IsFaithful (r : String × MetricMap) : Prop :=
  ∃ files folder bytes, IsIntact files folder r.1 bytes ∧ r.2 = .ofMetrics (Metric.ofContent bytes)

namespace Watcher

variable {w w' : Watcher} {archive : String} {damage : Zip.Damage}

theorem metricsOf_of_isDamaged (h : IsDamaged w.files w.folder archive damage) :
    w.metricsOf archive = .error (.corrupt (Path.join w.folder archive) damage) := by
  have hasked : IsAsked w.files w.folder (some archive) archive := rfl
  exact Collector.outcome_metrics_of_isDamaged (c := ⟨w.folder⟩) hasked h

/-- Metrics that are read are those of an intact report. -/
theorem exists_isIntact_of_metricsOf {metrics : List Metric}
    (h : w.metricsOf archive = .ok metrics) :
    ∃ bytes, IsIntact w.files w.folder archive bytes ∧ metrics = Metric.ofContent bytes := by
  obtain ⟨name, bytes, hasked, hintact, hmetrics⟩ := Collector.exists_isIntact_of_outcome h
  obtain rfl : archive = name := hasked
  exact ⟨bytes, hintact, hmetrics⟩

theorem run_process_of_isDamaged (h : IsDamaged w.files w.folder archive damage) :
    ∃ log, (process archive).run w = .ok none { w with log } := by
  obtain ⟨log, hrun⟩ := w.run_process archive
  refine ⟨log, ?_⟩
  rw [hrun]
  unfold stop? reportOf? mapOf?
  rw [metricsOf_of_isDamaged h]
  exact congrArg (EStateM.Result.ok none) (w.with_reports_append_nil log)

theorem run_handle_of_isDamaged {e : Event} (hpath : e.path?.map Path.baseName = some archive)
    (h : IsDamaged w.files w.folder archive damage) :
    ∃ log, (handle e).run w = .ok () { w with log } := by
  obtain ⟨path, hsource, rfl⟩ := Option.map_eq_some_iff.1 hpath
  unfold handle
  rw [hsource]
  dsimp only
  unfold takeUp
  rw [EStateM.run_bind, EStateM.run_get]
  dsimp only
  split
  · obtain ⟨log, hrun⟩ := run_process_of_isDamaged h
    rw [EStateM.run_bind, hrun]
    exact ⟨log, rfl⟩
  · exact ⟨w.log, rfl⟩

/-- An archive is reported when it is processed just when its report is intact. -/
theorem run_process_eq_some {map : MetricMap} (h : (process archive).run w = .ok (some map) w') :
    w'.reports = w.reports ++ [(archive, map)] ∧
      ∃ bytes, IsIntact w.files w.folder archive bytes ∧
        map = .ofMetrics (Metric.ofContent bytes) := by
  obtain ⟨log, hrun⟩ := w.run_process archive
  rw [h] at hrun
  unfold stop? reportOf? mapOf? at hrun
  cases hmetrics : w.metricsOf archive with
  | error e =>
    rw [hmetrics] at hrun
    dsimp only at hrun
    split at hrun <;> cases hrun
  | ok metrics =>
    rw [hmetrics] at hrun
    cases hrun
    obtain ⟨bytes, hintact, rfl⟩ := exists_isIntact_of_metricsOf hmetrics
    exact ⟨rfl, bytes, hintact, rfl⟩

end Watcher

namespace Stage

variable {m : Stage} {r : String × MetricMap}

/-- What is reported at a stage was read from a report that was intact then. -/
theorem exists_isIntact (h : r ∈ m.reported) :
    ∃ bytes, IsIntact m.watcher.files m.watcher.folder r.1 bytes ∧
      r.2 = .ofMetrics (Metric.ofContent bytes) := by
  obtain ⟨metrics, hmetrics, hr⟩ := exists_metricsOf h
  obtain ⟨bytes, hintact, rfl⟩ := Watcher.exists_isIntact_of_metricsOf hmetrics
  exact ⟨bytes, hintact, hr⟩

theorem isFaithful_of_report (h : r ∈ m.report) : IsFaithful r := by
  rw [← reported_eq] at h
  obtain ⟨bytes, hintact, hr⟩ := exists_isIntact h
  exact ⟨_, _, bytes, hintact, hr⟩

end Stage

namespace Watcher

/-- Work that reports only what it has read from intact reports. -/
def ReportsFaithfully {α : Type} (work : Watching α) : Prop :=
  ∀ w, ∃ new, (left work w).reports = w.reports ++ new ∧ ∀ r ∈ new, IsFaithful r

theorem reportsFaithfully_processExisting : ReportsFaithfully processExisting := fun w =>
  ⟨_, (Stage.mk w .scan).reports_next, fun _ h => Stage.isFaithful_of_report h⟩

theorem reportsFaithfully_undergoAll (changes : List Change) :
    ReportsFaithfully (undergoAll changes) := by
  intro w
  induction changes generalizing w with
  | nil => exact ⟨[], (List.append_nil _).symm, fun r h => absurd h List.not_mem_nil⟩
  | cons change changes ih =>
    have hstage := (Stage.mk w (.change change)).reports_next
    change (left (undergo change) w).reports = _ at hstage
    unfold undergoAll
    rw [left_bind]
    unfold left at hstage
    cases hrun : (undergo change).run w with
    | error e w₁ =>
      rw [hrun] at hstage
      exact ⟨_, hstage, fun r h => Stage.isFaithful_of_report h⟩
    | ok _ w₁ =>
      rw [hrun] at hstage
      obtain ⟨new, hnew, hfaithful⟩ := ih w₁
      refine ⟨(Stage.mk w (.change change)).report ++ new, ?_, fun r h => ?_⟩
      · dsimp only at hstage ⊢
        rw [hnew, hstage, List.append_assoc]
      · rcases List.mem_append.1 h with h | h
        · exact Stage.isFaithful_of_report h
        · exact hfaithful r h

end Watcher

end SectionTimes
