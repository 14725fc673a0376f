import SectionTimes.CommandLine.ScenarioRuns
import SectionTimes.Proofs.CommandLine.Durations
import SectionTimes.Proofs.Config.Loading

/-!
# Programs without a configuration

A program that cannot load its configuration stops before it does anything else.  It reports a
number that is unfit; whatever else is wrong with the configuration escapes.
-/

namespace SectionTimes

namespace Config

variable {x : Setting} {v : Value} {e : Failure}

theorem Setting.Counts.not_fails {w : Value} (h : x.Counts v w) : ¬ x.Fails v e := fun hfails =>
  nomatch (convert_eq_ok_iff.2 h).symm.trans (convert_eq_error_iff.2 hfails)

/-- A failure that programs report. -/
def Failure.IsReported (e : Failure) : Prop := ∃ setting value, e = .badNumber setting value

/-- A value fails a setting, and this is not reported. -/
def Setting.IsUnreportable (x : Setting) (v : Value) : Prop :=
  x.IsTooLarge v ∨ x.IsUnfit v ∧ v.isShowable = false

theorem Setting.Fails.cases (h : x.Fails v e) :
    x.IsUnreportable v ∧ ¬ e.IsReported ∨ ¬ x.IsUnreportable v ∧ e = .badNumber x.label v := by
  rcases h with ⟨hlarge, rfl⟩ | ⟨hunfit, rfl⟩
  · exact Or.inl ⟨Or.inl hlarge, nofun⟩
  · unfold Failure.ofValue
    cases hshow : v.isShowable with
    | false => exact Or.inl ⟨Or.inr ⟨hunfit, hshow⟩, nofun⟩
    | true =>
      refine Or.inr ⟨?_, rfl⟩
      rintro (hlarge | ⟨-, hnot⟩)
      · exact hunfit.2 hlarge
      · cases hshow.symm.trans hnot

theorem Setting.IsUnreportable.exists_fails (h : x.IsUnreportable v) :
    ∃ e, x.Fails v e ∧ ¬ e.IsReported := by
  have hfails : ∃ e, x.Fails v e := by
    rcases h with hlarge | ⟨hunfit, -⟩
    · exact ⟨_, Or.inl ⟨hlarge, rfl⟩⟩
    · exact ⟨_, Or.inr ⟨hunfit, rfl⟩⟩
  obtain ⟨e, hfails⟩ := hfails
  exact ⟨e, hfails, (hfails.cases.resolve_right fun hnot => hnot.1 h).2⟩

/-- Something is wrong with sources that is not reported.  How deep a value may be nested to be
shown is not bounded here. -/
inductive Escapes (s : Sources) : Prop where
  | file (h : ¬ s.file.HoldsSettings)
  | top (h : Setting.top.IsUnreportable (s.value .top))
  | device {w : Value} (htop : Setting.top.Counts (s.value .top) w)
      (h : ¬ s.deviceValue.HoldsSettings)
  | timeout {w : Value} (htop : Setting.top.Counts (s.value .top) w)
      (h : Setting.timeout.IsUnreportable (s.value .timeout))

variable {s : Sources}

/-- A fault either escapes or is reported as that of a number. -/
theorem IsFault.cases (h : IsFault s e) :
    Escapes s ∧ ¬ e.IsReported ∨
      ¬ Escapes s ∧ ∃ x : Setting, x.isNumber = true ∧ e = .badNumber x.label (s.value x) := by
  cases h with
  | file hnot => exact Or.inl ⟨.file hnot, nofun⟩
  | top hfile hbad =>
    rcases hbad.cases with ⟨hescapes, hnot⟩ | ⟨hfits, rfl⟩
    · exact Or.inl ⟨.top hescapes, hnot⟩
    · refine Or.inr ⟨?_, .top, rfl, rfl⟩
      rintro (hnot | hescapes | ⟨htop, -⟩ | ⟨htop, -⟩)
      · exact hnot hfile
      · exact hfits hescapes
      · exact htop.not_fails hbad
      · exact htop.not_fails hbad
  | device _ htop hnot => exact Or.inl ⟨.device htop hnot, nofun⟩
  | timeout hmappings htop hbad =>
    rcases hbad.cases with ⟨hescapes, hnot⟩ | ⟨hfits, rfl⟩
    · exact Or.inl ⟨.timeout htop hescapes, hnot⟩
    · refine Or.inr ⟨?_, .timeout, rfl, rfl⟩
      rintro (hnot | hescapes | ⟨-, hnot⟩ | ⟨-, hescapes⟩)
      · exact hnot hmappings.file
      · obtain ⟨e, hfails, -⟩ := hescapes.exists_fails
        exact htop.not_fails hfails
      · exact hnot hmappings.device
      · exact hfits hescapes

theorem not_escapes_of_load {c : Config} (h : load s = .ok c) : ¬ Escapes s := by
  obtain ⟨hmappings, hcounts⟩ := load_eq_ok_iff.1 h
  rintro (hnot | hescapes | ⟨-, hnot⟩ | ⟨-, hescapes⟩)
  · exact hnot hmappings.file
  · obtain ⟨e, hfails, -⟩ := hescapes.exists_fails
    exact (hcounts .top).not_fails hfails
  · exact hnot hmappings.device
  · obtain ⟨e, hfails, -⟩ := hescapes.exists_fails
    exact (hcounts .timeout).not_fails hfails

/-- Loading gives a configuration or the report of a number, unless something escapes. -/
theorem load_or_reported_iff :
    ((∃ c, load s = .ok c) ∨
        ∃ x : Setting, x.isNumber = true ∧ load s = .error (.badNumber x.label (s.value x))) ↔
      ¬ Escapes s := by
  cases hload : load s with
  | ok c => simp [not_escapes_of_load hload]
  | error e =>
    rcases (load_eq_error_iff.1 hload).cases with ⟨hescapes, hnot⟩ | ⟨hescapes, x, hx, rfl⟩
    · refine ⟨?_, fun h => absurd hescapes h⟩
      rintro (⟨c, ⟨⟩⟩ | ⟨x, -, h⟩)
      cases h
      exact absurd ⟨_, _, rfl⟩ hnot
    · exact ⟨fun _ => hescapes, fun _ => Or.inr ⟨x, hx, rfl⟩⟩

end Config

namespace CommandLine

open Config

variable {words : List String} {a : Arguments} {environment : Table String String}
  {s : Session} {file : Value} {e : Config.Failure}

theorem isSteady_fileValue (read : Reader) (files : Files) (path : String) :
    Logged.IsSteady (fileValue read files path) := by
  unfold fileValue
  dsimp only
  split
  · exact Logged.isSteady_pure _
  · split
    all_goals refine Logged.IsSteady.bind ?_ fun node => ?_
    all_goals first
      | exact Logged.isSteady_pure _
      | exact Logged.isSteady_throw _
      | split
    -- What stands at the path is a folder, a file or nothing.
    all_goals first
      | exact Logged.isSteady_throw _
      | exact (Logged.isSteady_ofExcept _).bind fun value =>
          (Logged.isSteady_note _ _).bind fun _ => Logged.isSteady_pure _
      | exact (Logged.isSteady_note _ _).bind fun _ => Logged.isSteady_pure _

/-- The settings are loaded from the file and the other sources, and only notes are taken. -/
theorem run_config (a : Arguments) (environment : Table String String) (s : Session) :
    ∃ log, (Work.config a environment).run s =
      match (fileValue s.readConfig s.link.files ((a.text? "config").getD "")).outcome with
      | .error e => .error (.escaped (.file e)) { s with link := { s.link with log } }
      | .ok file =>
        match load ⟨a.options, environment, file⟩ with
        | .error e => .error (Stop.ofConfig e) { s with link := { s.link with log } }
        | .ok config => .ok config { s with link := { s.link with log } } := by
  obtain ⟨log, hrun⟩ :=
    isSteady_fileValue s.readConfig s.link.files ((a.text? "config").getD "") s.link.log
  have hget : (get : Work Session).run s = .ok s s := rfl
  refine ⟨log, ?_⟩
  unfold Work.config
  rw [EStateM.run_bind, hget]
  dsimp only
  rw [EStateM.run_bind, run_noting, hrun]
  cases (fileValue s.readConfig s.link.files ((a.text? "config").getD "")).outcome with
  | error e => rfl
  | ok file =>
    dsimp only
    cases load ⟨a.options, environment, file⟩ <;> rfl

theorem run_config_of_error
    (hfile : (fileValue s.readConfig s.link.files ((a.text? "config").getD "")).outcome = .ok file)
    (hload : load ⟨a.options, environment, file⟩ = .error e) :
    ∃ log, (Work.config a environment).run s =
      .error (Stop.ofConfig e) { s with link := { s.link with log } } := by
  obtain ⟨log, hrun⟩ := run_config a environment s
  rw [hfile] at hrun
  dsimp only at hrun
  rw [hload] at hrun
  exact ⟨log, hrun⟩

theorem run_config_of_load {config : Config}
    (hfile : (fileValue s.readConfig s.link.files ((a.text? "config").getD "")).outcome = .ok file)
    (hload : load ⟨a.options, environment, file⟩ = .ok config) :
    ∃ log, (Work.config a environment).run s =
      .ok config { s with link := { s.link with log } } := by
  obtain ⟨log, hrun⟩ := run_config a environment s
  rw [hfile] at hrun
  dsimp only at hrun
  rw [hload] at hrun
  exact ⟨log, hrun⟩

theorem run_config_of_fileFailure {e : FileFailure} (environment : Table String String)
    (hfile : (fileValue s.readConfig s.link.files ((a.text? "config").getD "")).outcome =
      .error e) :
    ∃ log, (Work.config a environment).run s =
      .error (.escaped (.file e)) { s with link := { s.link with log } } := by
  obtain ⟨log, hrun⟩ := run_config a environment s
  rw [hfile] at hrun
  exact ⟨log, hrun⟩

/-- A program ended for a failure of its configuration, and did nothing before. -/
structure StopsFor (e : Config.Failure) (s : Session) (o : Outcome) : Prop where
  printed : o.outputLines = s.printed
  calls : o.session.link.calls = s.link.calls
  reported : ∀ setting value, e = .badNumber setting value →
    o.exitCode? = some 1 ∧ ∀ stamp tag, ∃ notes, o.errorLines stamp tag =
      notes ++ [Outcome.reportLine ("Invalid value for " ++ setting ++ ": " ++ value.quoted)]
  escaped : ¬ e.IsReported → o.exitCode? = none

theorem stopsFor_ofConfig {s' : Session} (hprinted : s'.printed = s.printed)
    (hcalls : s'.link.calls = s.link.calls) :
    StopsFor e s ⟨s', some (Stop.ofConfig e)⟩ where
  printed := hprinted
  calls := hcalls
  reported := by
    rintro setting value rfl
    exact ⟨rfl, fun stamp tag => ⟨_, rfl⟩⟩
  escaped := by
    intro hnot
    cases e with
    | badNumber setting value => exact absurd ⟨_, _, rfl⟩ hnot
    | _ => rfl

theorem Durations.stopsFor (hread : Durations.rules.read words = .ok (.work a))
    (hconflict : Durations.conflict a = false)
    (hfile : (fileValue s.readConfig s.link.files ((a.text? "config").getD "")).outcome = .ok file)
    (hload : load ⟨a.options, environment, file⟩ = .error e) (changes : List (List Change)) :
    StopsFor e s ((Durations.run words environment changes).outcome s) := by
  let s₁ : Session := { s with verbose := a.has "verbose" }
  obtain ⟨log, hconfig⟩ := run_config_of_error (s := s₁) hfile hload
  have hprepare : (Durations.prepare a environment).run s =
      .error (Stop.ofConfig e) { s₁ with link := { s₁.link with log } } := by
    unfold Durations.prepare
    rw [EStateM.run_bind]
    change EStateM.run _ s₁ = _
    rw [hconflict, if_neg Bool.false_ne_true, EStateM.run_bind, hconfig]
  have hrun : (Durations.run words environment changes).run s =
      .error (Stop.ofConfig e) { s₁ with link := { s₁.link with log } } := by
    unfold Durations.run
    rw [Durations.begin_eq hread, EStateM.run_bind, EStateM.run_bind, hprepare]
  rw [Durations.outcome_eq, hrun]
  exact stopsFor_ofConfig rfl rfl

theorem ScenarioRuns.stopsFor {known : Scenarios} {chosen : List (String × List String)}
    (hread : ScenarioRuns.rules.read words = .ok (.work a)) (hlist : a.has "list" = false)
    (hnames : a.names ≠ []) (hchosen : ScenarioRuns.choose known a.names = .ok chosen)
    (hfile : (fileValue s.readConfig s.link.files ((a.text? "config").getD "")).outcome = .ok file)
    (hload : load ⟨a.options, environment, file⟩ = .error e) :
    StopsFor e s ((ScenarioRuns.run known words environment).outcome s) := by
  obtain ⟨log, hconfig⟩ := run_config_of_error hfile hload
  have hrun : (ScenarioRuns.run known words environment).run s =
      .error (Stop.ofConfig e) { s with link := { s.link with log } } := by
    unfold ScenarioRuns.run
    rw [hread]
    dsimp only
    rw [hlist, if_neg Bool.false_ne_true, if_neg (by simpa using hnames), hchosen]
    dsimp only
    rw [EStateM.run_bind, hconfig]
  rw [Durations.outcome_eq, hrun]
  exact stopsFor_ofConfig rfl rfl

end CommandLine

open Config CommandLine

/-- Settings give a configuration or the report of a number, unless something escapes, which it does
where what should hold settings is no mapping and where a number is too large or cannot be shown.
Either program ends for a failure with a report and the exit code 1 if that is the report of a
number, and without an exit code if not; it has then asked and printed nothing. -/
theorem reported_unless_it_escapes (a : Arguments) (environment : Table String String)
    (file : Value) :
    let sources : Sources := ⟨a.options, environment, file⟩
    (((∃ c, load sources = .ok c) ∨ ∃ x : Setting, x.isNumber = true ∧
        load sources = .error (.badNumber x.label (sources.value x))) ↔ ¬ Escapes sources) ∧
      (∀ e, load sources = .error e ↔ IsFault sources e) ∧
      ∀ (words : List String) (s : Session) (e : Config.Failure),
        (fileValue s.readConfig s.link.files ((a.text? "config").getD "")).outcome = .ok file →
        load sources = .error e →
          (Durations.rules.read words = .ok (.work a) → Durations.conflict a = false →
            ∀ changes, StopsFor e s ((Durations.run words environment changes).outcome s)) ∧
          ∀ (known : Scenarios) (chosen : List (String × List String)),
            ScenarioRuns.rules.read words = .ok (.work a) → a.has "list" = false →
            a.names ≠ [] → ScenarioRuns.choose known a.names = .ok chosen →
              StopsFor e s ((ScenarioRuns.run known words environment).outcome s) := by
  intro sources
  refine ⟨load_or_reported_iff, fun e => load_eq_error_iff, fun words s e hfile hload => ?_⟩
  constructor
  · intro hread hconflict changes
    exact Durations.stopsFor hread hconflict hfile hload changes
  · intro known chosen hread hlist hnames hchosen
    exact ScenarioRuns.stopsFor hread hlist hnames hchosen hfile hload

/-- The environment gives a text for a number that is none. -/
def wordedTop : Table String String := .ofList [("BUGREPORT_TOP", "few")]

theorem worded_top_reported :
    (∀ changes, StopsFor (.badNumber "top" (.text "few")) (.start .empty [] .zero)
      ((Durations.run [] wordedTop changes).outcome (.start .empty [] .zero))) ∧
    StopsFor (.badNumber "top" (.text "few")) (.start .empty [] .zero)
      ((ScenarioRuns.run Scenarios.builtIn ["open-bluetooth-media"] wordedTop).outcome
        (.start .empty [] .zero)) := by
  constructor
  · intro changes
    obtain ⟨-, -, hstops⟩ := reported_unless_it_escapes ⟨.ofList [], []⟩ wordedTop (.map [])
    exact (hstops [] (.start .empty [] .zero) _ rfl rfl).1 rfl rfl changes
  · obtain ⟨-, -, hstops⟩ := reported_unless_it_escapes ⟨.ofList [], ["open-bluetooth-media"]⟩
      wordedTop (.map [])
    exact (hstops ["open-bluetooth-media"] (.start .empty [] .zero) _ rfl rfl).2 _ _ rfl rfl
      (List.cons_ne_nil _ _) rfl

/-- A file that gives an infinite number. -/
def infiniteTopFiles : Files := ⟨Table.ofList [(["c.yml"], .file "top: .inf\n".toUTF8.toList)]⟩

/-- A file that gives no mapping. -/
def listFiles : Files := ⟨Table.ofList [(["c.yml"], .file "- 1\n".toUTF8.toList)]⟩

/-- Either program is left without an exit code by a file that can be read. -/
theorem infinite_top_escapes :
    let o := (Durations.run ["--config", "c.yml"] .empty []).outcome
      (.start infiniteTopFiles [] .zero)
    let o' := (ScenarioRuns.run Scenarios.builtIn ["--config", "c.yml", "open-bluetooth-media"]
      .empty).outcome (.start listFiles [] .zero)
    o.exitCode? = none ∧ o'.exitCode? = none ∧
      o.errorLines "TIME" Durations.tag = ["TIME [BUGREPORT] INFO Loaded YAML config from c.yml"] ∧
      o'.errorLines "TIME" ScenarioRuns.tag =
        ["TIME [SCENARIO] INFO Loaded YAML config from c.yml"] ∧
      load ⟨.empty, .empty, .map [(.text "top", .float (.infinite false))]⟩ = .error .tooLarge ∧
      load ⟨.empty, .empty, .list [.int 1]⟩ = .error .notMapping := by
  refine ⟨by decide +kernel, by decide +kernel, by decide +kernel, by decide +kernel, rfl, rfl⟩

end SectionTimes
