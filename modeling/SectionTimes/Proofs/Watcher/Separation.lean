import SectionTimes.Proofs.Watcher.Spacing

/-!
# Archives do not interfere

What is reported of an archive depends on the files, on the clock and on the events of that name,
and on no other event.  Two watchers that agree on an archive go on agreeing on it while the one
goes through changes and the other through the same changes without the events of other names,
also where the work on another archive fails.
-/

namespace SectionTimes

open Bugreport

/-- The path that an event is about, be it that of a file or that of a folder. -/
def Event.subject? (e : Event) : Option String :=
  match e.kind with
  | .created => some e.source
  | .closed => some e.source
  | .moved => some e.target
  | .other => none

/-- The name of the file that an event is about. -/
theorem Event.map_path?_eq_some_iff {e : Event} {name : String} :
    e.path?.map Path.baseName = some name ↔
      e.onFolder = false ∧ ∃ path, e.subject? = some path ∧ Path.baseName path = name := by
  change (if e.onFolder then none else e.subject?).map Path.baseName = some name ↔ _
  cases e.onFolder with
  | true => simp
  | false => simp

/-- Whether a change is an event about another name. -/
def Change.isElsewhere (archive : String) : Change → Bool
  | .event e => e.subject?.any fun path => Path.baseName path ≠ archive
  | _ => false

theorem Change.path?_ne_of_isElsewhere {archive : String} {e : Event}
    (h : isElsewhere archive (.event e) = true) : e.path?.map Path.baseName ≠ some archive := by
  intro hpath
  obtain ⟨-, path, hsubject, hname⟩ := Event.map_path?_eq_some_iff.1 hpath
  change e.subject?.any (fun path => Path.baseName path ≠ archive) = true at h
  rw [hsubject, Option.any_some] at h
  exact of_decide_eq_true h hname

namespace Watcher

variable {w w' : Watcher} {e : Event} {archive : String}

/-! ## Events without a report -/

/-- What has a watcher pass over an event. -/
inductive PassesOver (w : Watcher) (e : Event) : Prop where
  /-- It happened to a folder. -/
  | onFolder (h : e.onFolder = true)
  /-- No archive comes by it. -/
  | otherKind (h : e.kind = .other)
  /-- What came by it is no archive. -/
  | otherName {path : String} (hpath : e.subject? = some path)
      (h : isArchiveName (Path.baseName path) = false)
  /-- The archive was taken up less than a pause ago. -/
  | pausing {path : String} (hpath : e.subject? = some path)
      (h : w.isPausing (Path.baseName path) = true)
  /-- The archive cannot be read. -/
  | unreadable {path : String} (hpath : e.subject? = some path) (failure : ReadFailure)
      (h : w.metricsOf (Path.baseName path) = .error failure)

/-- An event brings no report just when it is passed over. -/
theorem news?_eq_none_iff : w.news? e = none ↔ w.PassesOver e := by
  constructor
  · intro h
    cases hfolder : e.onFolder with
    | true => exact .onFolder hfolder
    | false =>
      cases hsubject : e.subject? with
      | none =>
        refine .otherKind ?_
        unfold Event.subject? at hsubject
        split at hsubject
        case h_4 hkind => exact hkind
        all_goals cases hsubject
      | some path =>
        have hpath := Event.map_path?_eq_some_iff.2 ⟨hfolder, path, hsubject, rfl⟩
        cases hname : isArchiveName (Path.baseName path) with
        | false => exact .otherName hsubject hname
        | true =>
          cases hpausing : w.isPausing (Path.baseName path) with
          | true => exact .pausing hsubject hpausing
          | false =>
            cases hmetrics : w.metricsOf (Path.baseName path) with
            | error failure => exact .unreadable hsubject failure hmetrics
            | ok metrics =>
              -- nothing is left that keeps the archive from being reported
              have hnews := news?_eq_some_iff (r := (_, .ofMetrics metrics)).2
                ⟨⟨hpath, hname, hpausing⟩, metrics, hmetrics, rfl⟩
              rw [h] at hnews
              cases hnews
  · intro hpasses
    refine Option.eq_none_iff_forall_ne_some.2 fun r hr => ?_
    obtain ⟨⟨hpath, hname, hpausing⟩, metrics, hmetrics, -⟩ := news?_eq_some_iff.1 hr
    obtain ⟨hfolder, path, hsubject, hbase⟩ := Event.map_path?_eq_some_iff.1 hpath
    rw [← hbase] at hname hpausing hmetrics
    cases hpasses with
    | onFolder h => exact absurd h (Bool.eq_false_iff.1 hfolder)
    | otherKind h =>
      unfold Event.subject? at hsubject
      rw [h] at hsubject
      cases hsubject
    | otherName hpath' h =>
      obtain rfl := Option.some.inj (hsubject.symm.trans hpath')
      exact absurd hname (Bool.eq_false_iff.1 h)
    | pausing hpath' h =>
      obtain rfl := Option.some.inj (hsubject.symm.trans hpath')
      exact absurd h (Bool.eq_false_iff.1 hpausing)
    | unreadable hpath' failure h =>
      obtain rfl := Option.some.inj (hsubject.symm.trans hpath')
      rw [hmetrics] at h
      cases h

/-- An event that is passed over leaves the reports and the times remembered. -/
theorem PassesOver.after_event (h : w.PassesOver e) :
    (w.after (.event e)).reports = w.reports ∧ (w.after (.event e)).taken = w.taken := by
  obtain ⟨log, hnext⟩ := (Stage.mk w (.event e)).exists_next_eq
  change w.after (.event e) = _ at hnext
  rw [hnext]
  unfold Stage.report Stage.marked
  dsimp only
  rw [news?_eq_none_iff.2 h]
  exact ⟨List.append_nil _, rfl⟩

/-! ## Agreement on one archive -/

/-- The reports of an archive. -/
def reportsOf (w : Watcher) (archive : String) : List (String × MetricMap) :=
  w.reports.filter fun r => r.1 = archive

/-- Two watchers agree on an archive if they are alike in all that bears on its reports, and have
reported the same of it. -/
structure AgreeOn (archive : String) (w w' : Watcher) : Prop where
  folder : w.folder = w'.folder
  files : w.files = w'.files
  clock : w.clock = w'.clock
  taken : w.taken.find? archive = w'.taken.find? archive
  reports : w.reportsOf archive = w'.reportsOf archive

/-- The report that an event brings of one archive. -/
def newsOf (w : Watcher) (archive : String) (e : Event) : List (String × MetricMap) :=
  (w.news? e).toList.filter fun r => r.1 = archive

theorem newsOf_eq_nil (h : e.path?.map Path.baseName ≠ some archive) : w.newsOf archive e = [] := by
  refine List.filter_eq_nil_iff.2 fun r hr harchive => h ?_
  rw [(news?_eq_some_iff.1 (Option.mem_toList.1 hr)).1.1]
  exact congrArg some (of_decide_eq_true harchive)

theorem AgreeOn.newsOf_eq (h : AgreeOn archive w w') (e : Event) :
    w.newsOf archive e = w'.newsOf archive e := by
  by_cases hpath : e.path?.map Path.baseName = some archive
  · unfold newsOf news? isPausing reportOf? mapOf? metricsOf
    rw [hpath, Option.bind_some, Option.bind_some, h.folder, h.files, h.clock, h.taken]
  · rw [newsOf_eq_nil hpath, newsOf_eq_nil hpath]

theorem reportsOf_after_event :
    (w.after (.event e)).reportsOf archive = w.reportsOf archive ++ w.newsOf archive e := by
  unfold reportsOf newsOf
  rw [reports_after_event, List.filter_append]

theorem find?_taken_after_event :
    (w.after (.event e)).taken.find? archive =
      if w.newsOf archive e = [] then w.taken.find? archive else some w.clock := by
  have hmarked : archive ∈ (Stage.mk w (.event e)).marked ↔ w.newsOf archive e ≠ [] := by
    unfold newsOf
    rw [ne_eq, List.filter_eq_nil_iff]
    simp [Stage.marked]
  change (Stage.mk w (.event e)).next.taken.find? archive = _
  rw [Stage.find?_taken_next]
  by_cases hnews : w.newsOf archive e = []
  · rw [if_pos hnews, if_neg fun h => hmarked.1 h hnews]
  · rw [if_neg hnews, if_pos (hmarked.2 hnews)]
    rfl

theorem after_event_eq (w : Watcher) (e : Event) :
    (w.after (.event e)).folder = w.folder ∧ (w.after (.event e)).files = w.files ∧
      (w.after (.event e)).clock = w.clock := by
  obtain ⟨log, h⟩ := w.left_handle e
  change (left (handle e) w).folder = _ ∧ (left (handle e) w).files = _ ∧
    (left (handle e) w).clock = _
  rw [h]
  exact ⟨rfl, rfl, rfl⟩

/-- Watchers that agree on an archive agree on it after every change. -/
theorem AgreeOn.after_change (h : AgreeOn archive w w') (change : Change) :
    AgreeOn archive (w.after (.change change)) (w'.after (.change change)) := by
  by_cases hevent : ∃ e, change = .event e
  · obtain ⟨e, rfl⟩ := hevent
    obtain ⟨hfolder, hfiles, hclock⟩ := w.after_event_eq e
    obtain ⟨hfolder', hfiles', hclock'⟩ := w'.after_event_eq e
    refine ⟨?_, ?_, ?_, ?_, ?_⟩
    · rw [hfolder, hfolder', h.folder]
    · rw [hfiles, hfiles', h.files]
    · rw [hclock, hclock', h.clock]
    · rw [find?_taken_after_event, find?_taken_after_event, h.newsOf_eq, h.taken, h.clock]
    · rw [reportsOf_after_event, reportsOf_after_event, h.newsOf_eq, h.reports]
  · have hother : ∀ e, change ≠ .event e := fun e he => hevent ⟨e, he⟩
    change AgreeOn archive (left (undergo change) w) (left (undergo change) w')
    rw [left_undergo w hother, left_undergo w' hother, ← h.files, ← h.clock]
    exact ⟨h.folder, rfl, rfl, h.taken, h.reports⟩

/-- An event of another name changes nothing that bears on an archive. -/
theorem agreeOn_after_elsewhere {change : Change} (h : change.isElsewhere archive = true) :
    AgreeOn archive (w.after (.change change)) w := by
  cases change with
  | event e =>
    have hnews : w.newsOf archive e = [] := newsOf_eq_nil (Change.path?_ne_of_isElsewhere h)
    obtain ⟨hfolder, hfiles, hclock⟩ := w.after_event_eq e
    refine ⟨hfolder, hfiles, hclock, ?_, ?_⟩
    · rw [find?_taken_after_event, if_pos hnews]
    · rw [reportsOf_after_event, hnews, List.append_nil]
  | _ => cases h

theorem AgreeOn.trans {w'' : Watcher} (h : AgreeOn archive w w') (h' : AgreeOn archive w' w'') :
    AgreeOn archive w w'' :=
  ⟨h.folder.trans h'.folder, h.files.trans h'.files, h.clock.trans h'.clock,
    h.taken.trans h'.taken, h.reports.trans h'.reports⟩

/-- Watchers that agree on an archive agree on it after a run and the same run without the events
of other names. -/
theorem AgreeOn.run (h : AgreeOn archive w w') (changes : List Change) :
    AgreeOn archive (w.run (changes.map .change))
      (w'.run ((changes.filter fun change => !change.isElsewhere archive).map .change)) := by
  induction changes generalizing w w' with
  | nil => exact h
  | cons change changes ih =>
    -- an event of another name is gone through on the left alone
    cases helsewhere : change.isElsewhere archive with
    | true =>
      rw [List.filter_cons_of_neg (by simp [helsewhere])]
      exact ih ((agreeOn_after_elsewhere helsewhere).trans h)
    | false =>
      rw [List.filter_cons_of_pos (by simp [helsewhere])]
      exact ih (h.after_change change)

/-- What was reported in the course of a run. -/
theorem reports_run (w : Watcher) (acts : List Act) :
    (w.run acts).reports = w.reports ++ (w.stages acts).flatMap Stage.reported := by
  induction acts generalizing w with
  | nil => exact (List.append_nil _).symm
  | cons act acts ih =>
    change ((w.after act).run acts).reports = _
    have hnext : (w.after act).reports = w.reports ++ (Stage.mk w act).reported := by
      rw [Stage.reported_eq]
      exact (Stage.mk w act).reports_next
    rw [ih, hnext, List.append_assoc]
    rfl

end Watcher

/-- The reports of an archive are the same without the events of other names.  An event that is
passed over leaves the reports and the times remembered.  Whatever is reported is the metric map of
its archive as the file was at that stage. -/
theorem archives_separate (w : Watcher) (changes : List Change) (archive : String) :
    (w.run (changes.map .change)).reportsOf archive =
      (w.run ((changes.filter fun change => !change.isElsewhere archive).map .change)).reportsOf
        archive ∧
    (∀ m ∈ w.stages (changes.map .change), ∀ e, m.act = .event e → m.watcher.PassesOver e →
      m.next.reports = m.watcher.reports ∧ m.next.taken = m.watcher.taken) ∧
    (w.run (changes.map .change)).reports =
      w.reports ++ (w.stages (changes.map .change)).flatMap Stage.reported ∧
    ∀ m ∈ w.stages (changes.map .change), ∀ r ∈ m.reported,
      ∃ metrics, m.watcher.metricsOf r.1 = .ok metrics ∧ r.2 = .ofMetrics metrics := by
  refine ⟨?_, ?_, w.reports_run _, ?_⟩
  · have hself : Watcher.AgreeOn archive w w := ⟨rfl, rfl, rfl, rfl, rfl⟩
    exact (hself.run changes).reports
  · rintro ⟨w, act⟩ - e rfl hpasses
    exact hpasses.after_event
  · rintro m - r hr
    exact Stage.exists_metricsOf hr

/-- Of an archive that is not there and one that is, the closing of the one is passed over and the
other is reported. -/
theorem separate_from_missing :
    let missing : Event := ⟨.closed, "r/bugreport-b.zip", "", false⟩
    let changes : List Change := [.event missing, .event shortClosed]
    let w := shortWatcher.run (changes.map .change)
    shortWatcher.PassesOver missing ∧ (shortWatcher.after (.event missing)).reports = [] ∧
      (shortWatcher.after (.event missing)).taken = .empty ∧
      (w.reportsOf "bugreport-a.zip").length = 1 ∧
      w.reportsOf "bugreport-a.zip" =
        (shortWatcher.run [.event shortClosed]).reportsOf "bugreport-a.zip" ∧
      ∀ m ∈ shortWatcher.stages (changes.map .change), ∀ r ∈ m.reported,
        ∃ metrics, m.watcher.metricsOf r.1 = .ok metrics ∧ r.2 = .ofMetrics metrics := by
  intro missing changes w
  obtain ⟨hreports, hpassed, -, hdelivered⟩ :=
    archives_separate shortWatcher changes "bugreport-a.zip"
  have hkept : changes.filter (fun change => !change.isElsewhere "bugreport-a.zip") =
      [.event shortClosed] := by
    decide +kernel
  rw [hkept] at hreports
  have hmissing : shortWatcher.metricsOf "bugreport-b.zip" =
      .error (.noArchive "r/bugreport-b.zip") := by
    decide +kernel
  have hsubject : missing.subject? = some "r/bugreport-b.zip" := rfl
  have hpasses : shortWatcher.PassesOver missing := .unreadable hsubject _ hmissing
  obtain ⟨hnone, htaken⟩ :=
    hpassed ⟨shortWatcher, .event missing⟩ List.mem_cons_self missing rfl hpasses
  exact ⟨hpasses, hnone, htaken, by decide +kernel, hreports, hdelivered⟩

end SectionTimes
