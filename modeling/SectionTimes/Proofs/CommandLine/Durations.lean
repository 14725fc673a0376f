import SectionTimes.CommandLine.Durations
import SectionTimes.Proofs.CommandLine.Printing
import SectionTimes.Proofs.Watcher.Integrity

/-!
# What the program prints

The program finds its settings, fetches a bugreport if it is to, and only then comes to print
anything.  What it prints of a report it has read as a whole.
-/

namespace SectionTimes.CommandLine

/-- A stop for something that failed, be it reported or not. -/
def Stop.IsFailure (stop : Stop) : Prop :=
  (∃ message, stop = .failed message) ∨ ∃ cause, stop = .escaped cause

namespace Durations

open Bugreport

/-- What is done before anything is reported: the settings and the format are found, and a
bugreport is fetched if that is asked for. -/
def prepare (a : Arguments) (environment : Table String String) : Work (Config × Format) := do
  modify fun s => { s with verbose := a.has "verbose" }
  if conflict a then throw (.failed conflictMessage)
  let config ← Work.config a environment
  let format ← formatOf config.format
  Work.note .debug ("Config: " ++ config.describe)
  if a.has "pull" then pull config
  return (config, format)

variable {words : List String} {a : Arguments} {environment : Table String String}

/-- Reporting comes after everything else. -/
theorem begin_eq (h : rules.read words = .ok (.work a)) :
    begin words environment = do
      let (config, format) ← prepare a environment
      if a.has "watch" then return some (← Watch.start config.folder format)
      report a config format
      return none := by
  unfold begin prepare
  rw [h]
  dsimp only
  rw [bind_assoc]
  refine bind_congr fun _ => ?_
  split
  · rfl
  · rw [bind_assoc]
    refine bind_congr fun config => ?_
    rw [bind_assoc]
    refine bind_congr fun format => ?_
    rw [bind_assoc]
    refine bind_congr fun _ => ?_
    split
    · rw [bind_assoc]
      rfl
    · rfl

/-- A format is found in a setting, or there is a failure. -/
theorem formatOf_cases (setting : Value) :
    (∃ format, formatOf setting = pure format) ∨
      ∃ stop : Stop, stop.IsFailure ∧ formatOf setting = throw stop := by
  unfold formatOf
  dsimp only
  split
  · exact Or.inl ⟨_, rfl⟩
  · split
    · exact Or.inr ⟨_, Or.inl ⟨_, rfl⟩, rfl⟩
    · exact Or.inr ⟨_, Or.inr ⟨_, rfl⟩, rfl⟩

theorem isFailure_ofReading (e : ReadFailure) : (Stop.ofReading e).IsFailure := by
  unfold Stop.ofReading
  split
  · exact Or.inl ⟨_, rfl⟩
  · exact Or.inr ⟨_, rfl⟩

/-- A folder is named by a setting, or there is a failure. -/
theorem folderOf_cases (setting : Value) (archive : Option String) :
    (∃ folder, folderOf setting archive = pure folder) ∨
      ∃ stop : Stop, stop.IsFailure ∧ folderOf setting archive = throw stop := by
  unfold folderOf
  split
  · exact Or.inl ⟨_, rfl⟩
  · exact Or.inr ⟨_, Or.inr ⟨_, rfl⟩, rfl⟩
  · split
    · exact Or.inr ⟨_, Or.inr ⟨_, rfl⟩, rfl⟩
    · split
      · exact Or.inr ⟨_, isFailure_ofReading _, rfl⟩
      · exact Or.inr ⟨_, Or.inr ⟨_, rfl⟩, rfl⟩

theorem isSilent_formatOf (setting : Value) : IsSilent (formatOf setting) := by
  rcases formatOf_cases setting with ⟨format, h⟩ | ⟨stop, -, h⟩
  · exact h ▸ isSilent_pure format
  · exact h ▸ isSilent_throw stop

theorem isSilent_pull (config : Config) : IsSilent (pull config) := by
  unfold pull
  refine (isSilent_attempt _).bind fun found => ?_
  cases found with
  | ok _ => exact isSilent_pure _
  | error e => exact isSilent_throw _

theorem isSilent_folderOf (setting : Value) (archive : Option String) :
    IsSilent (folderOf setting archive) := by
  rcases folderOf_cases setting archive with ⟨folder, h⟩ | ⟨stop, -, h⟩
  · exact h ▸ isSilent_pure folder
  · exact h ▸ isSilent_throw stop

theorem isSilent_prepare (a : Arguments) (environment : Table String String) :
    IsSilent (prepare a environment) := by
  unfold prepare
  refine IsSilent.bind (isSilent_modify ?_) fun _ => ?_
  · exact fun _ => rfl
  apply isSilent_unless
  refine (isSilent_config _ _).bind fun config => (isSilent_formatOf _).bind fun format =>
    (isSilent_note _ _).bind fun _ => ?_
  split
  · exact (isSilent_pull _).bind fun _ => isSilent_pure _
  · exact isSilent_pure _

/-! ## One report -/

/-- The lines in which metrics are reported. -/
def shownLines (a : Arguments) (config : Config) (format : Format) (metrics : List Metric) :
    List String :=
  if a.has "stats" then
    let stats := Stats.ofMetrics metrics config.top
    [if format = .json then stats.jsonText else stats.plainText]
  else
    let text := format.render (.ofMetrics metrics)
    if text.isEmpty then [] else [text]

theorem run_folderOf {setting : Value} {folder : String} (h : setting.text? = some folder)
    (named : Option String) (s : Session) : (folderOf setting named).run s = .ok folder s := by
  unfold folderOf
  rw [h]
  rfl

/-- Without a folder nothing is read. -/
theorem run_folderOf_of_none {setting : Value} (h : setting.text? = none)
    (named : Option String) (s : Session) :
    ∃ stop, (folderOf setting named).run s = .error stop s := by
  unfold folderOf
  rw [h]
  cases named with
  | some name => exact ⟨_, rfl⟩
  | none =>
    dsimp only
    split
    · exact ⟨_, rfl⟩
    · split
      · exact ⟨_, rfl⟩
      · exact ⟨_, rfl⟩

/-- Metrics are shown once all of them are read, and a failure to read them shows nothing. -/
theorem run_report {config : Config} {folder : String} (h : config.folder.text? = some folder)
    (format : Format) (s : Session) :
    ∃ log, (report a config format).run s =
      match (Collector.metrics ⟨folder⟩ s.link.files (a.text? "archive")).outcome with
      | .error e => .error (Stop.ofReading e) { s with link := { s.link with log } }
      | .ok metrics =>
        .ok ()
          { s with
            link := { s.link with log }
            printed := s.printed ++ shownLines a config format metrics } := by
  let s₁ : Session := { s with
    link := { s.link with
      log := s.link.log ++ [⟨.debug, Collector.startMessage config.folder.plain⟩] } }
  obtain ⟨log, hrun⟩ :=
    Collector.isSteady_metrics ⟨folder⟩ s.link.files (a.text? "archive") s₁.link.log
  have hstart : (Work.note .debug (Collector.startMessage config.folder.plain)).run s = .ok () s₁ :=
    rfl
  have hget : (get : Work Session).run s₁ = .ok s₁ s₁ := rfl
  unfold report
  rw [EStateM.run_bind, hstart]
  dsimp only
  rw [EStateM.run_bind, run_folderOf h]
  dsimp only
  rw [EStateM.run_bind, hget]
  dsimp only
  rw [EStateM.run_bind, run_noting, hrun]
  cases (Collector.metrics ⟨folder⟩ s.link.files (a.text? "archive")).outcome with
  | error e => exact ⟨log, rfl⟩
  | ok metrics =>
    refine ⟨log ++ [⟨.debug, Collector.stopMessage⟩], ?_⟩
    unfold shownLines
    dsimp only
    by_cases hstats : a.has "stats" = true
    · rw [if_pos hstats, if_pos hstats]
      rfl
    · rw [if_neg hstats, if_neg hstats]
      cases htext : (format.render (.ofMetrics metrics)).isEmpty with
      | true =>
        rw [if_pos rfl, List.append_nil]
        rfl
      | false => rfl

theorem run_report_of_none {config : Config} (h : config.folder.text? = none) (format : Format)
    (s : Session) :
    ∃ stop s', (report a config format).run s = .error stop s' ∧ s'.printed = s.printed := by
  let s₁ : Session := { s with
    link := { s.link with
      log := s.link.log ++ [⟨.debug, Collector.startMessage config.folder.plain⟩] } }
  obtain ⟨stop, hfolder⟩ := run_folderOf_of_none h (a.text? "archive") s₁
  have hstart : (Work.note .debug (Collector.startMessage config.folder.plain)).run s = .ok () s₁ :=
    rfl
  refine ⟨stop, s₁, ?_, rfl⟩
  unfold report
  rw [EStateM.run_bind, hstart]
  dsimp only
  rw [EStateM.run_bind, hfolder]

/-- Either nothing is shown, or all of an intact report. -/
theorem run_report_cases (a : Arguments) (config : Config) (format : Format) (s : Session) :
    (∃ stop s', (report a config format).run s = .error stop s' ∧ s'.printed = s.printed) ∨
      ∃ s' folder archive bytes, (report a config format).run s = .ok () s' ∧
        config.folder.text? = some folder ∧
        IsAsked s.link.files folder (a.text? "archive") archive ∧
        IsIntact s.link.files folder archive bytes ∧
        s'.printed = s.printed ++ shownLines a config format (Metric.ofContent bytes) := by
  cases hfolder : config.folder.text? with
  | none => exact Or.inl (run_report_of_none hfolder format s)
  | some folder =>
    obtain ⟨log, hreport⟩ := run_report (a := a) hfolder format s
    cases houtcome : (Collector.metrics ⟨folder⟩ s.link.files (a.text? "archive")).outcome with
    | error e =>
      rw [houtcome] at hreport
      exact Or.inl ⟨_, _, hreport, rfl⟩
    | ok metrics =>
      rw [houtcome] at hreport
      obtain ⟨archive, bytes, hasked, hintact, rfl⟩ :=
        Collector.exists_isIntact_of_outcome houtcome
      exact Or.inr ⟨_, folder, archive, bytes, hreport, rfl, hasked, hintact, rfl⟩

/-- A program that does not watch reports once, when everything is prepared. -/
theorem run_run (h : rules.read words = .ok (.work a)) (hwatch : a.has "watch" = false)
    (changes : List (List Change)) (s : Session) :
    (run words environment changes).run s =
      match (prepare a environment).run s with
      | .error stop s' => .error stop s'
      | .ok (config, format) s' => (report a config format).run s' := by
  unfold run
  rw [begin_eq h, EStateM.run_bind, EStateM.run_bind]
  cases (prepare a environment).run s with
  | error stop s' => rfl
  | ok found s' =>
    obtain ⟨config, format⟩ := found
    dsimp only
    rw [hwatch, if_neg Bool.false_ne_true, EStateM.run_bind]
    cases (report a config format).run s' <;> rfl

theorem outcome_eq (work : Work Unit) (s : Session) :
    work.outcome s =
      match work.run s with
      | .ok _ s' => ⟨s', none⟩
      | .error stop s' => ⟨s', some stop⟩ := rfl

/-- A damaged report ends the program with a failure, and nothing is printed. -/
theorem outcome_of_isDamaged (h : rules.read words = .ok (.work a)) (hwatch : a.has "watch" = false)
    {changes : List (List Change)} {s s' : Session} {config : Config} {format : Format}
    (hprepare : (prepare a environment).run s = .ok (config, format) s') {folder archive : String}
    {damage : Zip.Damage} (hfolder : config.folder.text? = some folder)
    (hasked : IsAsked s'.link.files folder (a.text? "archive") archive)
    (hdamaged : IsDamaged s'.link.files folder archive damage) :
    ((run words environment changes).outcome s).exitCode? = some 1 ∧
      ((run words environment changes).outcome s).outputLines = s.printed := by
  have hprinted := isSilent_prepare a environment s
  obtain ⟨log, hreport⟩ := run_report (a := a) hfolder format s'
  rw [Collector.outcome_metrics_of_isDamaged (c := ⟨folder⟩) hasked hdamaged] at hreport
  rw [outcome_eq, run_run h hwatch, hprepare]
  rw [hprepare] at hprinted
  dsimp only
  rw [hreport]
  exact ⟨rfl, hprinted⟩

/-- A program that ends well has printed what it read of an intact report, and one that does not
has printed nothing. -/
theorem outcome_cases (h : rules.read words = .ok (.work a)) (hwatch : a.has "watch" = false)
    (changes : List (List Change)) (s : Session) :
    let o := (run words environment changes).outcome s
    o.exitCode? ≠ some 0 ∧ o.outputLines = s.printed ∨
      o.exitCode? = some 0 ∧ ∃ config format s' folder archive bytes,
        (prepare a environment).run s = .ok (config, format) s' ∧
        config.folder.text? = some folder ∧
        IsAsked s'.link.files folder (a.text? "archive") archive ∧
        IsIntact s'.link.files folder archive bytes ∧
        o.outputLines = s.printed ++ shownLines a config format (Metric.ofContent bytes) := by
  intro o
  have hfailed : ∀ {stop s'}, o = ⟨s', some stop⟩ → s'.printed = s.printed →
      o.exitCode? ≠ some 0 ∧ o.outputLines = s.printed := by
    rintro stop s' ho hprinted
    rw [ho]
    exact ⟨by cases stop <;> simp [Outcome.exitCode?], hprinted⟩
  have hprinted := isSilent_prepare a environment s
  have ho : o = (match (run words environment changes).run s with
    | .ok _ s' => ⟨s', none⟩
    | .error stop s' => ⟨s', some stop⟩) := outcome_eq _ s
  rw [run_run h hwatch] at ho
  cases hprepare : (prepare a environment).run s with
  | error stop s' =>
    rw [hprepare] at ho hprinted
    exact Or.inl (hfailed ho hprinted)
  | ok found s' =>
    obtain ⟨config, format⟩ := found
    rw [hprepare] at ho hprinted
    have hprinted : s'.printed = s.printed := hprinted
    dsimp only at ho
    rcases run_report_cases a config format s' with ⟨stop, s'', hreport, hsame⟩ |
      ⟨s'', folder, archive, bytes, hreport, hfolder, hasked, hintact, hshown⟩
    · rw [hreport] at ho
      exact Or.inl (hfailed ho (hsame.trans hprinted))
    · rw [hreport] at ho
      refine Or.inr ⟨by rw [ho]; rfl, config, format, s', folder, archive, bytes, rfl, hfolder,
        hasked, hintact, ?_⟩
      rw [ho, ← hprinted]
      exact hshown

/-! ## All that is printed -/

/-- What the program prints at a time: its usage, or something that it has read of an intact
report. -/
inductive IsShown : List String → Prop where
  /-- The usage. -/
  | usage : IsShown [rules.usage]
  /-- The metrics of one report, in one of the forms there are. -/
  | metrics {files : Files} {folder archive : String} {bytes : List UInt8} (a : Arguments)
      (config : Config) (format : Format) (h : IsIntact files folder archive bytes) :
      IsShown (shownLines a config format (Metric.ofContent bytes))
  /-- A report of the watcher. -/
  | report {r : String × MetricMap} (format : Format) (h : IsFaithful r) :
      IsShown (Watch.linesOf format r.1 r.2)

theorem prints_report (a : Arguments) (config : Config) (format : Format) :
    Prints IsShown (report a config format) := by
  intro s
  rcases run_report_cases a config format s with ⟨stop, s', hreport, hsame⟩ |
    ⟨s', folder, archive, bytes, hreport, -, -, hintact, hshown⟩
  · rw [hreport]
    exact adds_of_eq hsame
  · rw [hreport]
    refine ⟨[shownLines a config format (Metric.ofContent bytes)], ?_, fun block hblock => ?_⟩
    · rw [List.flatten_singleton]
      exact hshown
    · rw [List.mem_singleton.1 hblock]
      exact .metrics a config format hintact

namespace Watch

/-- A session goes on with the lines of the reports. -/
theorem adds_record {format : Format} {s : Session} {w : Watcher}
    (h : ∀ r ∈ w.reports, IsFaithful r) : Adds IsShown s (record format s w) := by
  refine ⟨w.reports.map fun r => linesOf format r.1 r.2, ?_, fun block hblock => ?_⟩
  · rw [← List.flatMap_def]
    rfl
  · obtain ⟨r, hr, rfl⟩ := List.mem_map.1 hblock
    exact .report format (h r hr)

/-- The watcher goes to work on what a session has. -/
def watcherIn (w : Watch) (s : Session) : Watcher :=
  { w.watcher with files := s.link.files, clock := s.clock, log := s.link.log, reports := [] }

theorem run_run (w : Watch) (work : Watching Unit) (s : Session) :
    (w.run work).run s =
      match work.run (w.watcherIn s) with
      | .ok _ watcher => .ok { w with watcher } (record w.format s watcher)
      | .error e watcher => .error (Stop.ofReading e) (record w.format s watcher) := rfl

theorem endOf_run (w : Watch) (work : Watching Unit) (s : Session) :
    endOf ((w.run work).run s) = record w.format s (Watcher.left work (w.watcherIn s)) := by
  rw [run_run]
  unfold Watcher.left
  cases work.run (w.watcherIn s) <;> rfl

theorem prints_run_watch (w : Watch) {work : Watching Unit}
    (h : Watcher.ReportsFaithfully work) : Prints IsShown (w.run work) := by
  intro s
  obtain ⟨new, hnew, hfaithful⟩ := h (w.watcherIn s)
  rw [endOf_run]
  apply adds_record
  rw [hnew]
  exact hfaithful

theorem prints_start (setting : Value) (format : Format) :
    Prints IsShown (start setting format) := by
  unfold start
  refine (isSilent_folderOf _ _).prints.bind fun folder => ?_
  refine (prints_run_watch _ Watcher.reportsFaithfully_processExisting).bind fun w => ?_
  refine Prints.bind (isSilent_modify ?_).prints fun _ => ?_
  · exact fun _ => rfl
  · exact (isSilent_note _ _).prints.bind fun _ => (isSilent_pure _).prints

theorem prints_pass (w : Watch) (changes : List Change) : Prints IsShown (w.pass changes) := by
  unfold pass
  refine (prints_run_watch w (Watcher.reportsFaithfully_undergoAll changes)).tryCatch fun stop => ?_
  exact (isSilent_note _ _).prints.bind fun _ => (isSilent_throw _).prints

end Watch

theorem prints_watch (w : Watch) (changes : List (List Change)) :
    Prints IsShown (watch w changes) := by
  induction changes generalizing w with
  | nil =>
    exact (isSilent_note _ _).prints.bind fun _ => (isSilent_note _ _).prints
  | cons change changes ih =>
    exact (Watch.prints_pass w change).bind fun w => ih w

theorem prints_begin (words : List String) (environment : Table String String) :
    Prints IsShown (begin words environment) := by
  cases hread : rules.read words with
  | error c =>
    unfold begin
    rw [hread]
    exact (isSilent_throw _).prints
  | ok request =>
    cases request with
    | help =>
      unfold begin
      rw [hread]
      exact (prints_print .usage).bind fun _ => (isSilent_pure _).prints
    | work a =>
      rw [begin_eq hread]
      refine (isSilent_prepare a environment).prints.bind fun found => ?_
      obtain ⟨config, format⟩ := found
      dsimp only
      split
      · exact (Watch.prints_start _ _).bind fun w => (isSilent_pure _).prints
      · exact (prints_report a config format).bind fun _ => (isSilent_pure _).prints

/-- Whatever the program prints of reports, it has read of intact ones. -/
theorem prints_run (words : List String) (environment : Table String String)
    (changes : List (List Change)) : Prints IsShown (run words environment changes) := by
  unfold run
  refine (prints_begin words environment).bind fun found => ?_
  cases found with
  | none => exact (isSilent_pure _).prints
  | some w => exact prints_watch w changes

end Durations

end SectionTimes.CommandLine
