import SectionTimes.Proofs.Watcher.Work

/-!
# Stages of a run

A run of a watcher is a list of acts, each done on what the acts before it left, whether or not
they failed.  A stage is an act and the watcher that it finds.  The time remembered for an archive
changes only at a stage at which an event has the archive reported, or at which a scan begins it.
-/

namespace SectionTimes

open Bugreport

/-- What a watcher does or goes through. -/
inductive Act where
  /-- It goes through a change. -/
  | change (change : Change)
  /-- It processes one archive. -/
  | process (archive : String)
  /-- It processes the archives that are there. -/
  | scan
  deriving DecidableEq

/-- The act of handling an event. -/
abbrev Act.event (e : Event) : Act := .change (.event e)

namespace Watcher

variable (w : Watcher)

/-- The watcher that an act leaves, whether or not it fails. -/
def after : Act → Watcher
  | .change change => left (undergo change) w
  | .process archive => left (process archive) w
  | .scan => left processExisting w

/-- The watcher that acts leave, done one after the other. -/
def run (acts : List Act) : Watcher := acts.foldl after w

end Watcher

/-- An act and the watcher that it finds. -/
structure Stage where
  /-- The watcher. -/
  watcher : Watcher
  /-- The act. -/
  act : Act

/-- The stages of a run. -/
def Watcher.stages (w : Watcher) : List Act → List Stage
  | [] => []
  | act :: acts => ⟨w, act⟩ :: (w.after act).stages acts

namespace Stage

variable (m : Stage)

/-- The watcher that the act leaves. -/
def next : Watcher := m.watcher.after m.act

/-- What the clock shows. -/
def clock : Binary64 := m.watcher.clock

/-- What is reported. -/
def reported : List (String × MetricMap) := m.next.reports.drop m.watcher.reports.length

/-- Whether an archive is reported. -/
def Reports (archive : String) : Prop := archive ∈ m.reported.map Prod.fst

/-- Whether an event has an archive reported. -/
def ReportsByEvent (archive : String) : Prop := (∃ e, m.act = .event e) ∧ m.Reports archive

/-- Whether a scan begins an archive, which it may then be unable to read. -/
def Scans (archive : String) : Prop := m.act = .scan ∧ archive ∈ m.watcher.scanned

instance (archive : String) : Decidable (m.Reports archive) :=
  inferInstanceAs (Decidable (archive ∈ m.reported.map Prod.fst))

instance (archive : String) : Decidable (m.Scans archive) :=
  inferInstanceAs (Decidable (m.act = .scan ∧ archive ∈ m.watcher.scanned))

/-! ## One act -/

/-- What an act reports. -/
def report : List (String × MetricMap) :=
  match m.act with
  | .change (.event e) => (m.watcher.news? e).toList
  | .change _ => []
  | .process archive => (m.watcher.reportOf? archive).toList
  | .scan => m.watcher.scanned.filterMap m.watcher.reportOf?

/-- The archives for which an act has the time remembered. -/
def marked : List String :=
  match m.act with
  | .change (.event e) => (m.watcher.news? e).toList.map Prod.fst
  | .change _ => []
  | .process _ => []
  | .scan => m.watcher.scanned

/-- The files that an act leaves. -/
def filesAfter : Files :=
  match m.act with
  | .change change => Watcher.filesAfter m.watcher.files change
  | _ => m.watcher.files

/-- What the clock shows after an act. -/
def clockAfter : Binary64 :=
  match m.act with
  | .change change => Watcher.clockAfter m.clock change
  | _ => m.clock

/-- All that an act does, but for the notes. -/
theorem exists_next_eq :
    ∃ log, m.next =
      { folder := m.watcher.folder
        files := m.filesAfter
        clock := m.clockAfter
        taken := Watcher.putAll m.clock m.marked m.watcher.taken
        reports := m.watcher.reports ++ m.report
        log } := by
  obtain ⟨w, act⟩ := m
  cases act with
  | change change =>
    by_cases hevent : ∃ e, change = .event e
    · obtain ⟨e, rfl⟩ := hevent
      obtain ⟨log, h⟩ := w.left_handle e
      refine ⟨log, ?_⟩
      change Watcher.left (Watcher.handle e) w = _
      rw [h]
      rfl
    · have hother : ∀ e, change ≠ .event e := fun e he => hevent ⟨e, he⟩
      refine ⟨w.log, ?_⟩
      change Watcher.left (Watcher.undergo change) w = _
      rw [w.left_undergo hother]
      cases change with
      | event e => exact absurd rfl (hother e)
      | _ =>
        unfold report marked filesAfter clockAfter
        rw [List.append_nil]
        rfl
  | process archive =>
    obtain ⟨log, h⟩ := w.run_process archive
    exact ⟨log, Watcher.left_of_run h⟩
  | scan =>
    obtain ⟨log, h⟩ := w.run_processExisting
    exact ⟨log, Watcher.left_of_run h⟩

theorem reports_next : m.next.reports = m.watcher.reports ++ m.report := by
  obtain ⟨log, h⟩ := m.exists_next_eq
  rw [h]

theorem clock_next : m.next.clock = m.clockAfter := by
  obtain ⟨log, h⟩ := m.exists_next_eq
  rw [h]

theorem reported_eq : m.reported = m.report := by
  unfold reported
  rw [reports_next, List.drop_left]

/-- The time remembered for an archive becomes that of the act, or stays. -/
theorem find?_taken_next (archive : String) :
    m.next.taken.find? archive =
      if archive ∈ m.marked then some m.clock else m.watcher.taken.find? archive := by
  obtain ⟨log, h⟩ := m.exists_next_eq
  rw [h]
  exact Watcher.find?_putAll _ _ _ _

/-- What is reported was read at that stage. -/
theorem exists_metricsOf {m : Stage} {r : String × MetricMap} (h : r ∈ m.reported) :
    ∃ metrics, m.watcher.metricsOf r.1 = .ok metrics ∧ r.2 = .ofMetrics metrics := by
  rw [reported_eq] at h
  obtain ⟨w, act⟩ := m
  cases act with
  | change change =>
    cases change with
    | event e => exact (Watcher.news?_eq_some_iff.1 (Option.mem_toList.1 h)).2
    | _ => exact absurd h List.not_mem_nil
  | process archive =>
    obtain ⟨metrics, hmetrics, rfl⟩ := Watcher.reportOf?_eq_some_iff.1 (Option.mem_toList.1 h)
    exact ⟨metrics, hmetrics, rfl⟩
  | scan =>
    obtain ⟨archive, -, harchive⟩ := List.mem_filterMap.1 h
    obtain ⟨metrics, hmetrics, rfl⟩ := Watcher.reportOf?_eq_some_iff.1 harchive
    exact ⟨metrics, hmetrics, rfl⟩

/-- The archives marked are those that an event has reported and those that a scan begins. -/
theorem mem_marked_iff {m : Stage} {archive : String} :
    archive ∈ m.marked ↔ m.ReportsByEvent archive ∨ m.Scans archive := by
  unfold ReportsByEvent Reports Scans
  rw [reported_eq]
  obtain ⟨w, act⟩ := m
  cases act with
  | change change =>
    cases change with
    | event e => simp [marked, report]
    | _ => simp [marked, report]
  | process archive => simp [marked, report]
  | scan => simp [marked]

end Stage

/-! ## Runs -/

namespace Watcher

variable {w : Watcher} {acts : List Act}

/-- The stages of a run are its acts, each with the watcher that the acts before it leave. -/
theorem mem_stages_iff {m : Stage} :
    m ∈ w.stages acts ↔
      ∃ before behind, acts = before ++ m.act :: behind ∧ m.watcher = w.run before := by
  induction acts generalizing w with
  | nil => simp [stages]
  | cons act acts ih =>
    rw [stages, List.mem_cons, ih]
    constructor
    · rintro (rfl | ⟨before, behind, rfl, hm⟩)
      · exact ⟨[], acts, rfl, rfl⟩
      · exact ⟨act :: before, behind, rfl, hm⟩
    · rintro ⟨before, behind, hacts, hm⟩
      cases before with
      | nil =>
        obtain ⟨rfl, -⟩ := List.cons.inj hacts
        exact Or.inl (congrArg (Stage.mk · m.act) hm)
      | cons act' before =>
        obtain ⟨rfl, rfl⟩ := List.cons.inj hacts
        exact Or.inr ⟨before, behind, rfl, hm⟩

/-- A time that is remembered was remembered before the run, or is that of one of its stages. -/
theorem exists_stage_of_find?_taken_run {archive : String} {time : Binary64}
    (h : (w.run acts).taken.find? archive = some time) :
    w.taken.find? archive = some time ∨
      ∃ m ∈ w.stages acts, m.clock = time ∧ archive ∈ m.marked := by
  induction acts generalizing w with
  | nil => exact Or.inl h
  | cons act acts ih =>
    rcases ih h with hnext | ⟨m, hm, hclock, hmarked⟩
    · have hstep := (Stage.mk w act).find?_taken_next archive
      change (w.after act).taken.find? archive = _ at hstep
      rw [hnext] at hstep
      split at hstep
      · rename_i hmarked
        exact Or.inr ⟨⟨w, act⟩, List.mem_cons_self, (Option.some.inj hstep).symm, hmarked⟩
      · exact Or.inl hstep.symm
    · exact Or.inr ⟨m, List.mem_cons_of_mem _ hm, hclock, hmarked⟩

/-- An event has its report delivered. -/
theorem reports_after_event (w : Watcher) (e : Event) :
    (w.after (.event e)).reports = w.reports ++ (w.news? e).toList :=
  (Stage.mk w (.event e)).reports_next

theorem clock_after {P : Binary64 → Prop} {act : Act} (hw : P w.clock)
    (hset : ∀ time, act = .change (.setClock time) → P time) : P (w.after act).clock := by
  change P (Stage.mk w act).next.clock
  rw [Stage.clock_next]
  cases act with
  | change change =>
    cases change with
    | setClock time => exact hset time rfl
    | _ => exact hw
  | _ => exact hw

/-- What holds of the clock at the beginning and of every time that it is set to holds of it
throughout. -/
theorem clock_invariant {P : Binary64 → Prop} (hw : P w.clock)
    (hset : ∀ time, .change (.setClock time) ∈ acts → P time) :
    (∀ m ∈ w.stages acts, P m.clock) ∧ P (w.run acts).clock := by
  induction acts generalizing w with
  | nil => exact ⟨fun m hm => absurd hm List.not_mem_nil, hw⟩
  | cons act acts ih =>
    have hnext : P (w.after act).clock :=
      clock_after hw fun time htime => hset time (htime ▸ List.mem_cons_self)
    obtain ⟨hstages, hrun⟩ := ih hnext fun time htime => hset time (List.mem_cons_of_mem _ htime)
    refine ⟨fun m hm => ?_, hrun⟩
    rcases List.mem_cons.1 hm with rfl | hm
    · exact hw
    · exact hstages m hm

end Watcher

end SectionTimes
