import SectionTimes.Proofs.CommandLine.Conduct
import SectionTimes.Proofs.CommandLine.Options
import SectionTimes.Proofs.CommandLine.Settings

/-!
# How the program fails

If the program ends with exit code 1, then it has printed nothing, and its error output ends with
the one report of what failed.  It asks the bridge only if a bugreport is to be fetched, and not
before everything that the command line and the settings say was found to be in order.  While it
watches, nothing ends it but an archive that is refused.
-/

namespace SectionTimes

namespace CommandLine

open Config

variable {words : List String} {a : Arguments} {environment : Table String String}
  {changes : List (List Change)} {s s' : Session} {config : Config} {format : Format} {stop : Stop}

/-! ## Failing cleanly -/

/-- Work that prints nothing before a failure that is to be reported. -/
def FailsCleanly {α : Type} (work : Work α) : Prop :=
  ∀ s stop s', work.run s = .error stop s' →
    (∃ cause, stop = .escaped cause) ∨ (∃ message, stop = .failed message) ∧ s'.printed = s.printed

section

variable {α β : Type} {work : Work α} {f : α → Work β}

theorem FailsCleanly.of_isSilent (h : IsSilent work) (hstop : FailsBy Stop.IsFailure work) :
    FailsCleanly work := by
  intro s stop s' hrun
  have hprinted := h s
  rw [hrun] at hprinted
  exact (hstop s stop s' hrun).symm.imp_right fun hfailed => ⟨hfailed, hprinted⟩

theorem FailsCleanly.bind (h : FailsCleanly work) (hsilent : IsSilent work)
    (hf : ∀ a, FailsCleanly (f a)) : FailsCleanly (work >>= f) := by
  intro s stop s' hrun
  have hprinted := hsilent s
  rw [EStateM.run_bind] at hrun
  cases hfirst : work.run s with
  | error stop₁ s₁ =>
    rw [hfirst] at hrun
    cases hrun
    exact h s stop s' hfirst
  | ok a s₁ =>
    rw [hfirst] at hrun hprinted
    exact (hf a s₁ stop s' hrun).imp_right fun ⟨hfailed, hsame⟩ => ⟨hfailed, hsame.trans hprinted⟩

/-- What follows may print if no failure of it is reported. -/
theorem FailsCleanly.bind_escaping (h : FailsCleanly work)
    (hf : ∀ a, FailsBy (fun stop => ∃ cause, stop = .escaped cause) (f a)) :
    FailsCleanly (work >>= f) := by
  intro s stop s' hrun
  rw [EStateM.run_bind] at hrun
  cases hfirst : work.run s with
  | error stop₁ s₁ =>
    rw [hfirst] at hrun
    cases hrun
    exact h s stop s' hfirst
  | ok a s₁ =>
    rw [hfirst] at hrun
    exact Or.inl (hf a s₁ stop s' hrun)

end

namespace Durations

/-! ## Turning away -/

/-- Why the program does not begin: options exclude each other, the file of settings cannot be read,
the settings are wrong, or no format has the name that they give. -/
inductive IsTurnedAway (a : Arguments) (environment : Table String String) (read : Reader)
    (files : Files) : Stop → Prop where
  | options (h : conflict a = true) :
    IsTurnedAway a environment read files (.failed conflictMessage)
  | file {e : FileFailure} (hconflict : conflict a = false)
      (h : (fileValue read files ((a.text? "config").getD "")).outcome = .error e) :
      IsTurnedAway a environment read files (.escaped (.file e))
  | settings {file : Value} {e : Config.Failure} (hconflict : conflict a = false)
      (hfile : (fileValue read files ((a.text? "config").getD "")).outcome = .ok file)
      (h : load ⟨a.options, environment, file⟩ = .error e) :
      IsTurnedAway a environment read files (Stop.ofConfig e)
  | format {file : Value} {config : Config} (hconflict : conflict a = false)
      (hfile : (fileValue read files ((a.text? "config").getD "")).outcome = .ok file)
      (hload : load ⟨a.options, environment, file⟩ = .ok config)
      (h : ∀ name, config.format = .text name → Format.ofName? name = none) :
      IsTurnedAway a environment read files
        (if config.format.isShowable then .failed ("unknown output format " ++ config.format.quoted)
        else .escaped (.config .notShown))

theorem formatOf_of_unknown {setting : Value}
    (h : ∀ name, setting = .text name → Format.ofName? name = none) :
    formatOf setting =
      throw (if setting.isShowable then .failed ("unknown output format " ++ setting.quoted)
        else .escaped (.config .notShown)) := by
  unfold formatOf
  cases setting with
  | text name =>
    dsimp only
    rw [h name rfl]
    rfl
  | _ =>
    dsimp only
    split
    · rfl
    · rfl

/-- What comes before fetching fails where the program is turned away. -/
theorem IsTurnedAway.exists_run_settle
    (h : IsTurnedAway a environment s.readConfig s.link.files stop) :
    ∃ s', (settle a environment).run s = .error stop s' := by
  let s₁ : Session := { s with verbose := a.has "verbose" }
  have hsettle : (settle a environment).run s = (do
      if conflict a then throw (.failed conflictMessage)
      let config ← Work.config a environment
      let format ← formatOf config.format
      Work.note .debug ("Config: " ++ config.describe)
      return (config, format) : Work (Config × Format)).run s₁ := rfl
  rw [hsettle]
  cases h with
  | options h =>
    rw [h]
    exact ⟨s₁, rfl⟩
  | file hconflict h =>
    obtain ⟨log, hconfig⟩ := run_config_of_fileFailure (s := s₁) environment h
    rw [hconflict, if_neg Bool.false_ne_true, EStateM.run_bind, hconfig]
    exact ⟨_, rfl⟩
  | settings hconflict hfile h =>
    obtain ⟨log, hconfig⟩ := run_config_of_error (s := s₁) hfile h
    rw [hconflict, if_neg Bool.false_ne_true, EStateM.run_bind, hconfig]
    exact ⟨_, rfl⟩
  | format hconflict hfile hload h =>
    obtain ⟨log, hconfig⟩ := run_config_of_load (s := s₁) hfile hload
    rw [hconflict, if_neg Bool.false_ne_true, EStateM.run_bind, hconfig]
    dsimp only
    rw [EStateM.run_bind, formatOf_of_unknown h]
    exact ⟨_, rfl⟩

/-- A program that is turned away has asked nothing and printed nothing. -/
theorem outcome_of_isTurnedAway (hread : rules.read words = .ok (.work a))
    (h : IsTurnedAway a environment s.readConfig s.link.files stop) :
    let o := (run words environment changes).outcome s
    o.stop = some stop ∧ o.session.link.calls = s.link.calls ∧ o.outputLines = s.printed := by
  obtain ⟨s', hsettle⟩ := h.exists_run_settle
  have hcalls := (isAside_settle a environment).asksNothing s
  have hprinted := isSilent_settle a environment s
  have hprepare : (prepare a environment).run s = .error stop s' := by
    rw [prepare_eq, EStateM.run_bind, hsettle]
  have hrun : (run words environment changes).run s = .error stop s' := by
    unfold run
    rw [begin_eq hread, EStateM.run_bind, EStateM.run_bind, hprepare]
  rw [hsettle] at hcalls hprinted
  rw [outcome_eq, hrun]
  exact ⟨rfl, hcalls, hprinted⟩

/-! ## What follows -/

/-- When everything is prepared, the program watches or reports. -/
theorem run_eq (hread : rules.read words = .ok (.work a)) (environment : Table String String)
    (changes : List (List Change)) :
    run words environment changes = (do
      let (config, format) ← prepare a environment
      if a.has "watch" then watch (← Watch.start config.folder format) changes
      else report a config format : Work Unit) := by
  unfold run
  rw [begin_eq hread, bind_assoc]
  refine bind_congr fun found => ?_
  obtain ⟨config, format⟩ := found
  dsimp only
  split
  · rw [bind_assoc]
    exact bind_congr fun w => pure_bind _ _
  · rw [bind_assoc]
    exact (bind_congr fun _ => pure_bind _ _).trans (bind_pure _)

/-- Without fetching the whole program asks nothing, even if it watches. -/
theorem asksNothing_run (hread : rules.read words = .ok (.work a)) (hpull : a.has "pull" = false)
    (environment : Table String String) (changes : List (List Change)) :
    AsksNothing (run words environment changes) := by
  rw [run_eq hread]
  refine (asksNothing_prepare hpull environment).bind fun found => ?_
  dsimp only
  split
  · exact (Watch.asksNothing_start _ _).bind fun w => asksNothing_watch w changes
  · exact asksNothing_report _ _ _

/-! ## Watching -/

namespace Watch

variable {setting : Value} {folder : String}

/-- The watcher with which watching begins. -/
def opening (folder : String) (s : Session) : Watcher :=
  { Watcher.ofFolder folder s.link.files s.clock with log := s.link.log }

/-- Watching begins with a scan of the folder. -/
theorem run_start (h : setting.text? = some folder) (format : Format) (s : Session) :
    (start setting format).run s =
      match Watcher.processExisting.run (opening folder s) with
      | .error e watcher => .error (Stop.ofReading e) (record format s watcher)
      | .ok _ watcher =>
        .ok ⟨watcher, format⟩
          { record format s watcher with
            link := { (record format s watcher).link with
              log := watcher.log ++ [⟨.info, "Watching " ++ folder ++ " for new bugreports"⟩] }
            watched := some folder } := by
  have hopening : (⟨Watcher.ofFolder folder .empty .zero, format⟩ : Watch).watcherIn s =
      opening folder s := rfl
  unfold start
  rw [EStateM.run_bind, run_folderOf h]
  dsimp only
  rw [EStateM.run_bind, run_run, hopening]
  cases Watcher.processExisting.run (opening folder s) <;> rfl

theorem printed_record_of_nil {w : Watcher} (h : w.reports = []) (format : Format) (s : Session) :
    (record format s w).printed = s.printed := by
  unfold record
  rw [h]
  exact List.append_nil _

theorem failsCleanly_start (setting : Value) (format : Format) :
    FailsCleanly (start setting format) := by
  intro s stop s' hrun
  cases hfolder : setting.text? with
  | none =>
    obtain ⟨stop₁, hstop⟩ := run_folderOf_of_none hfolder none s
    unfold start at hrun
    rw [EStateM.run_bind, hstop] at hrun
    cases hrun
    exact (failsBy_folderOf setting none s stop s hstop).symm.imp_right fun h => ⟨h, rfl⟩
  | some folder =>
    rw [run_start hfolder] at hrun
    cases hscan : Watcher.processExisting.run (opening folder s) with
    | ok _ watcher =>
      rw [hscan] at hrun
      cases hrun
    | error e watcher =>
      rw [hscan] at hrun
      cases hrun
      rcases Watcher.processExisting_error_cases hscan with hrefused | ⟨-, hreports⟩
      · obtain ⟨r, h⟩ := stopsAtRefused_ofReading hrefused
        exact Or.inl ⟨_, h⟩
      · exact (isFailure_ofReading e).symm.imp_right fun h =>
          ⟨h, printed_record_of_nil hreports format s⟩

/-- Where there is a folder, watching begins unless an archive is refused. -/
theorem stopsAtRefused_of_start (h : setting.text? = some folder)
    (hthere : s.link.files.isFolder folder = true)
    (hrun : (start setting format).run s = .error stop s') : StopsAtRefused stop := by
  rw [run_start h] at hrun
  cases hscan : Watcher.processExisting.run (opening folder s) with
  | ok _ watcher =>
    rw [hscan] at hrun
    cases hrun
  | error e watcher =>
    rw [hscan] at hrun
    cases hrun
    rcases Watcher.processExisting_error_cases hscan with hrefused | ⟨harchives, -⟩
    · exact stopsAtRefused_ofReading hrefused
    · have harchives : Bugreport.archives s.link.files folder = .error e := harchives
      unfold Bugreport.archives at harchives
      rw [if_pos hthere] at harchives
      cases harchives

/-- Without a folder nothing is watched. -/
theorem run_start_of_noFolder (h : setting.text? = some folder) (format : Format)
    (hno : s.link.files.isFolder folder = false) :
    ∃ s', (start setting format).run s =
        .error (.failed (Bugreport.ReadFailure.noFolder folder).message) s' ∧
      s'.printed = s.printed := by
  have hnone : Bugreport.archives s.link.files folder = .error (.noFolder folder) :=
    if_neg (by simpa using hno)
  have harchives : Bugreport.archives (opening folder s).files (opening folder s).folder =
      .error (.noFolder folder) := hnone
  obtain ⟨log, hscan⟩ := (opening folder s).run_processExisting
  unfold Watcher.scanStop? Watcher.scanned at hscan
  rw [harchives] at hscan
  rw [run_start h, hscan]
  exact ⟨_, rfl, printed_record_of_nil rfl format s⟩

/-- If no archive is refused, those that can be read are reported, and watching begins. -/
theorem run_start_of_not_refused (h : setting.text? = some folder) (format : Format)
    {names : List String} (hnames : Bugreport.archives s.link.files folder = .ok names)
    (hrefused : ∀ name ∈ names, ∀ r, ¬ Bugreport.Refuses s.link.files folder name r) :
    ∃ w s', (start setting format).run s = .ok w s' ∧
      s'.printed = s.printed ++ (names.filterMap (opening folder s).reportOf?).flatMap
        fun (archive, metrics) => linesOf format archive metrics := by
  obtain ⟨watcher, hscan, hreports⟩ :=
    Watcher.run_processExisting_of_not_refused (w := opening folder s) hnames hrefused
  have hreports : watcher.reports = names.filterMap (opening folder s).reportOf? := hreports
  rw [run_start h, hscan]
  refine ⟨_, _, rfl, ?_⟩
  rw [← hreports]
  rfl

end Watch

/-! ## Failing -/

theorem failsCleanly_prepare (a : Arguments) (environment : Table String String) :
    FailsCleanly (prepare a environment) :=
  .of_isSilent (isSilent_prepare a environment) (failsBy_prepare a environment)

theorem failsCleanly_report (a : Arguments) (config : Config) (format : Format) :
    FailsCleanly (report a config format) := by
  intro s stop s' hrun
  rcases run_report_cases a config format s with ⟨stop₁, s₁, hfailed, hsame⟩ |
    ⟨s₁, _, _, _, hdone, -⟩
  · cases hfailed.symm.trans hrun
    exact (failsBy_report a config format s stop s' hrun).symm.imp_right fun h => ⟨h, hsame⟩
  · cases hdone.symm.trans hrun

/-- The program prints nothing before a failure that is reported. -/
theorem failsCleanly_run (hread : rules.read words = .ok (.work a))
    (environment : Table String String) (changes : List (List Change)) :
    FailsCleanly (run words environment changes) := by
  rw [run_eq hread]
  refine (failsCleanly_prepare a environment).bind (isSilent_prepare a environment) fun found => ?_
  dsimp only
  split
  · refine (Watch.failsCleanly_start _ _).bind_escaping fun w => ?_
    exact (failsBy_watch w changes).mono fun stop ⟨r, h⟩ => ⟨_, h⟩
  · exact failsCleanly_report a _ _

theorem session_outcome (work : Work Unit) (s : Session) :
    (work.outcome s).session = endOf (work.run s) := by
  rw [outcome_eq]
  cases work.run s <;> rfl

theorem exists_failed_of_exitCode (hread : rules.read words = .ok (.work a))
    (h : ((run words environment changes).outcome s).exitCode? = some 1) :
    ((run words environment changes).outcome s).outputLines = s.printed ∧
      ∃ message, ((run words environment changes).outcome s).stop = some (.failed message) := by
  have hclean := failsCleanly_run hread environment changes s
  rw [outcome_eq] at h ⊢
  cases hrun : (run words environment changes).run s with
  | ok u s' =>
    rw [hrun] at h
    cases h
  | error stop s' =>
    rw [hrun] at h
    rcases hclean stop s' hrun with ⟨cause, rfl⟩ | ⟨⟨message, rfl⟩, hprinted⟩
    · cases h
    · exact ⟨hprinted, message, rfl⟩

/-- A failure that is reported is reported once, behind the notes. -/
theorem errorLines_of_failed {o : Outcome} {message : String} (h : o.stop = some (.failed message))
    {stamp : String} (hstamp : stamp.toList.head? ≠ some 'E') (tag : String) :
    ∃ notes, o.errorLines stamp tag = notes ++ ["Error: " ++ message] ∧
      ∀ line ∈ notes, ¬ "Error: ".toList <+: line.toList := by
  unfold Outcome.errorLines
  rw [h]
  refine ⟨_, rfl, fun line hline hreport => ?_⟩
  obtain ⟨n, -, rfl⟩ := List.mem_map.1 hline
  obtain ⟨rest, hrest⟩ := hreport
  have hhead : stamp.toList.head?.or (some ' ') = some 'E' := by
    have hboth := congrArg List.head? hrest
    rw [String.append_assoc, String.append_assoc, String.append_assoc, String.toList_append,
      String.toList_append, List.head?_append, List.head?_append] at hboth
    exact hboth.symm
  cases hfirst : stamp.toList.head? with
  | none =>
    rw [hfirst] at hhead
    exact absurd hhead (by decide)
  | some c =>
    rw [hfirst] at hhead hstamp
    exact hstamp hhead

theorem printed_of_prepare (h : (prepare a environment).run s = .ok (config, format) s') :
    s'.printed = s.printed := by
  have hprinted := isSilent_prepare a environment s
  rw [h] at hprinted
  exact hprinted

section

variable {folder : String} (hread : rules.read words = .ok (.work a))
  (hwatch : a.has "watch" = true)
  (hprepare : (prepare a environment).run s = .ok (config, format) s')
  (hfolder : config.folder.text? = some folder)

include hread hwatch hprepare

theorem run_of_watch (changes : List (List Change)) :
    (run words environment changes).run s =
      (Watch.start config.folder format >>= fun w => watch w changes).run s' := by
  rw [run_eq hread, EStateM.run_bind, hprepare]
  dsimp only
  rw [hwatch, if_pos rfl]

include hfolder

/-- A missing folder is found before anything is printed. -/
theorem outcome_of_noFolder (changes : List (List Change))
    (hno : s'.link.files.isFolder folder = false) :
    let o := (run words environment changes).outcome s
    o.stop = some (.failed (Bugreport.ReadFailure.noFolder folder).message) ∧
      o.outputLines = s.printed := by
  obtain ⟨s'', hstart, hprinted⟩ := Watch.run_start_of_noFolder hfolder format hno
  rw [outcome_eq, run_of_watch hread hwatch hprepare, EStateM.run_bind, hstart]
  exact ⟨rfl, hprinted.trans (printed_of_prepare hprepare)⟩

/-- Where there is a folder, watching ends well unless an archive is refused. -/
theorem outcome_of_folder (changes : List (List Change))
    (hthere : s'.link.files.isFolder folder = true) :
    let o := (run words environment changes).outcome s
    o.exitCode? = some 0 ∨ ∃ r, o.stop = some (.escaped (.reading (.refused r))) := by
  have hrefused : ∀ stop s'', (run words environment changes).run s = .error stop s'' →
      StopsAtRefused stop := by
    intro stop s'' hrun
    rw [run_of_watch hread hwatch hprepare, EStateM.run_bind] at hrun
    cases hstart : (Watch.start config.folder format).run s' with
    | error stop₁ s₁ =>
      rw [hstart] at hrun
      cases hrun
      exact Watch.stopsAtRefused_of_start hfolder hthere hstart
    | ok w s₁ =>
      rw [hstart] at hrun
      exact failsBy_watch w changes s₁ stop s'' hrun
  rw [outcome_eq]
  cases hrun : (run words environment changes).run s with
  | ok u s'' => exact Or.inl rfl
  | error stop s'' =>
    obtain ⟨r, rfl⟩ := hrefused stop s'' hrun
    exact Or.inr ⟨r, rfl⟩

/-- What is there at the beginning and can be read is reported, if no archive is refused. -/
theorem outcome_of_not_refused (changes : List (List Change)) {names : List String}
    (hnames : Bugreport.archives s'.link.files folder = .ok names)
    (hrefused : ∀ name ∈ names, ∀ r, ¬ Bugreport.Refuses s'.link.files folder name r) :
    let o := (run words environment changes).outcome s
    ∃ later, o.outputLines = s.printed ++
        (names.filterMap (Watch.opening folder s').reportOf?).flatMap
          (fun (archive, metrics) => Watch.linesOf format archive metrics) ++ later ∧
      (changes = [] → later = [] ∧ o.exitCode? = some 0) := by
  obtain ⟨w, s₁, hstart, hprinted⟩ :=
    Watch.run_start_of_not_refused hfolder format hnames hrefused
  rw [printed_of_prepare hprepare] at hprinted
  have hrun : (run words environment changes).run s = (watch w changes).run s₁ := by
    rw [run_of_watch hread hwatch hprepare, EStateM.run_bind, hstart]
  intro o
  have hlines : o.outputLines = (endOf ((watch w changes).run s₁)).printed := by
    rw [← hrun, ← session_outcome]
    rfl
  obtain ⟨blocks, hblocks, -⟩ := prints_watch w changes s₁
  rw [hlines, hblocks, hprinted]
  refine ⟨blocks.flatten, rfl, ?_⟩
  rintro rfl
  have hsame : (endOf ((watch w []).run s₁)).printed = s₁.printed := rfl
  have hstop : ((run words environment []).outcome s).stop = none := by
    rw [outcome_eq, hrun]
    rfl
  have hnil : s₁.printed ++ blocks.flatten = s₁.printed ++ [] := by
    rw [← hblocks, hsame, List.append_nil]
  refine ⟨List.append_cancel_left hnil, ?_⟩
  unfold Outcome.exitCode?
  rw [hstop]

end

/-- The program fails cleanly.  With exit code 1 it has printed nothing, and its error output ends
with the one report of what failed.  It asks the bridge only to fetch, and nothing if it is turned
away.  When it watches, a missing folder is found before anything is printed, and nothing ends it
but an archive that is refused; archives that cannot be read are passed over. -/
theorem fails_cleanly (hread : rules.read words = .ok (.work a))
    (environment : Table String String) (changes : List (List Change)) (s : Session) :
    let o := (run words environment changes).outcome s
    (o.exitCode? = some 1 → o.outputLines = s.printed ∧ ∃ message,
      o.stop = some (.failed message) ∧
      ∀ stamp tag : String, stamp.toList.head? ≠ some 'E' → ∃ notes,
        o.errorLines stamp tag = notes ++ ["Error: " ++ message] ∧
          ∀ line ∈ notes, ¬ "Error: ".toList <+: line.toList) ∧
    (a.has "pull" = false → o.session.link.calls = s.link.calls) ∧
    (∀ stop, IsTurnedAway a environment s.readConfig s.link.files stop →
      o.stop = some stop ∧ o.session.link.calls = s.link.calls ∧ o.outputLines = s.printed) ∧
    (a.has "watch" = true → ∀ config format s' folder,
      (prepare a environment).run s = .ok (config, format) s' →
      config.folder.text? = some folder →
        (s'.link.files.isFolder folder = false →
          o.stop = some (.failed (Bugreport.ReadFailure.noFolder folder).message) ∧
            o.outputLines = s.printed) ∧
        (s'.link.files.isFolder folder = true →
          o.exitCode? = some 0 ∨ ∃ r, o.stop = some (.escaped (.reading (.refused r)))) ∧
        ∀ names, Bugreport.archives s'.link.files folder = .ok names →
          (∀ name ∈ names, ∀ r, ¬ Bugreport.Refuses s'.link.files folder name r) →
            ∃ later, o.outputLines = s.printed ++
                (names.filterMap (Watch.opening folder s').reportOf?).flatMap
                  (fun (archive, metrics) => Watch.linesOf format archive metrics) ++ later ∧
              (changes = [] → later = [] ∧ o.exitCode? = some 0)) := by
  refine ⟨fun hcode => ?_, fun hpull => ?_, fun stop h => outcome_of_isTurnedAway hread h, ?_⟩
  · obtain ⟨hprinted, message, hstop⟩ := exists_failed_of_exitCode hread hcode
    exact ⟨hprinted, message, hstop, fun stamp tag hstamp => errorLines_of_failed hstop hstamp tag⟩
  · rw [session_outcome]
    exact asksNothing_run hread hpull environment changes s
  · intro hwatch config format s' folder hprepare hfolder
    exact ⟨outcome_of_noFolder hread hwatch hprepare hfolder changes,
      outcome_of_folder hread hwatch hprepare hfolder changes,
      fun names => outcome_of_not_refused hread hwatch hprepare hfolder changes⟩

/-- Options that exclude each other are found before anything is fetched. -/
theorem conflict_found_before_fetching :
    let s := Session.start .empty [] .zero
    let o := (run ["--watch", "--stats", "--pull"] .empty []).outcome s
    o.exitCode? = some 1 ∧ o.outputLines = [] ∧ o.session.link.calls = [] ∧
      ∃ notes, o.errorLines "TIME" tag = notes ++ ["Error: " ++ conflictMessage] := by
  intro s o
  have ho : (run ["--watch", "--stats", "--pull"] .empty []).outcome s = o := rfl
  let a : Arguments :=
    ⟨.ofList [("watch", .bool true), ("stats", .bool true), ("pull", .bool true)], []⟩
  have hwords : (rules.classifyAll ["--watch", "--stats", "--pull"]).toOption =
      some [.option ⟨"watch", .switch⟩ none, .option ⟨"stats", .switch⟩ none,
        .option ⟨"pull", .switch⟩ none] := by decide +kernel
  have hread : rules.read ["--watch", "--stats", "--pull"] = .ok (.work a) :=
    (read_of_classifyAll hwords).trans rfl
  obtain ⟨hfailed, -, haway, -⟩ := fails_cleanly hread .empty [] s
  obtain ⟨hstop, hcalls, hprinted⟩ := haway _ (.options rfl)
  rw [ho] at hfailed hstop hcalls hprinted
  have hcode : o.exitCode? = some 1 := by
    unfold Outcome.exitCode?
    rw [hstop]
  obtain ⟨-, message, hmessage, hlines⟩ := hfailed hcode
  cases hstop.symm.trans hmessage
  obtain ⟨notes, hnotes, -⟩ := hlines "TIME" tag (by decide)
  have hunprinted : s.printed = [] := rfl
  have hunasked : s.link.calls = [] := rfl
  exact ⟨hcode, hprinted.trans hunprinted, hcalls.trans hunasked, notes, hnotes⟩

end Durations

end CommandLine

end SectionTimes
