import SectionTimes.Proofs.CommandLine.Settings
import SectionTimes.Proofs.Device.FirstFailure

/-!
# Batches of scenarios

A batch is checked as a whole before anything is asked of a device: with a name that is unknown,
none of its scenarios is run.  Then they are run in the order in which they are named, each by its
own commands, and the first command that goes wrong is the last that is given.

That holds on two levels, for the commands of a scenario and for the scenarios of a batch.
-/

namespace SectionTimes

open Device

/-! ## Things done in turn -/

section

variable {α β ε : Type} {key : β → α} {ends : β → Option ε → Prop} {a : α} {as : List α} {b : β}
  {bs : List β} {ending : Option ε}

/-- What is wanted is done in its order.  Either all of it is done and ends well, or only what is
done last does not, and everything ends as that does. -/
def InTurn (key : β → α) (ends : β → Option ε → Prop) (wanted : List α) (done : List β) :
    Option ε → Prop
  | none => done.map key = wanted ∧ ∀ b ∈ done, ends b none
  | some f => done.map key <+: wanted ∧ ∃ before last, done = before ++ [last] ∧
      (∀ b ∈ before, ends b none) ∧ ends last (some f)

theorem inTurn_nil : InTurn key ends [] [] none := ⟨rfl, List.forall_mem_nil _⟩

/-- Behind what goes wrong nothing is done. -/
theorem inTurn_stop {f : ε} (hkey : key b = a) (hb : ends b (some f)) (as : List α) :
    InTurn key ends (a :: as) [b] (some f) :=
  ⟨List.cons_prefix_cons.2 ⟨hkey, List.nil_prefix⟩, [], b, rfl, List.forall_mem_nil _, hb⟩

/-- Behind what goes well the rest is done. -/
theorem InTurn.cons (hkey : key b = a) (hb : ends b none) (h : InTurn key ends as bs ending) :
    InTurn key ends (a :: as) (b :: bs) ending := by
  cases ending with
  | none =>
    obtain ⟨hall, hgood⟩ := h
    exact ⟨by rw [List.map_cons, hkey, hall], List.forall_mem_cons.2 ⟨hb, hgood⟩⟩
  | some f =>
    obtain ⟨hsome, before, last, hdone, hgood, hlast⟩ := h
    exact ⟨by rw [List.map_cons, hkey]; exact List.cons_prefix_cons.2 ⟨rfl, hsome⟩,
      b :: before, last, congrArg (b :: ·) hdone, List.forall_mem_cons.2 ⟨hb, hgood⟩, hlast⟩

theorem InTurn.map_isPrefix (h : InTurn key ends as bs ending) : bs.map key <+: as := by
  cases ending with
  | none => exact h.1 ▸ List.prefix_rfl
  | some f => exact h.1

theorem InTurn.map {α' : Type} (g : α → α') (h : InTurn key ends as bs ending) :
    InTurn (g ∘ key) ends (as.map g) bs ending := by
  cases ending with
  | none => exact ⟨by rw [← List.map_map, h.1], h.2⟩
  | some f => exact ⟨by rw [← List.map_map]; exact h.1.map g, h.2⟩

/-- Nothing ends in two ways if nothing that is done does. -/
theorem InTurn.end_eq {ending' : Option ε} (hends : ∀ b ∈ bs, ∀ x y, ends b x → ends b y → x = y)
    (h : InTurn key ends as bs ending) (h' : InTurn key ends as bs ending') : ending = ending' := by
  have hlast : ∀ {f : ε} {before : List β} {last : β}, bs = before ++ [last] →
      ends last (some f) → ∀ x, ends last x → x = some f := by
    intro f before last hdone hlast x hx
    exact hends last (hdone ▸ List.mem_append_right _ List.mem_cons_self) x _ hx hlast
  cases ending with
  | none =>
    cases ending' with
    | none => rfl
    | some f =>
      obtain ⟨-, before, last, hdone, -, hf⟩ := h'
      exact hlast hdone hf none (h.2 last (hdone ▸ List.mem_append_right _ List.mem_cons_self))
  | some f =>
    obtain ⟨-, before, last, hdone, -, hf⟩ := h
    cases ending' with
    | none =>
      have hgood := h'.2 last (hdone ▸ List.mem_append_right _ List.mem_cons_self)
      exact (hlast hdone hf none hgood).symm
    | some f' =>
      obtain ⟨-, before', last', hdone', -, hf'⟩ := h'
      obtain ⟨-, hsame⟩ := List.append_inj' (hdone.symm.trans hdone') rfl
      cases hsame
      exact (hlast hdone hf _ hf').symm

end

/-! ## Scenarios -/

/-- A scenario that is run, with what came of its commands. -/
structure ScenarioRun where
  name : String
  commands : List String
  exchanges : List Exchange

namespace ScenarioRun

variable {d : Device} {r : ScenarioRun} {f : Failure}

/-- The commands of the scenario are given in turn, up to the first that goes wrong. -/
def Ends (d : Device) (r : ScenarioRun) : Option Failure → Prop :=
  InTurn Exchange.request (fun e ending => e.fault? d = ending) (r.commands.map .shell) r.exchanges

theorem ends_stop {e : Exchange} {command : String} (hrequest : e.request = .shell command)
    (hfault : e.fault? d = some f) (name : String) (commands : List String) :
    Ends d ⟨name, command :: commands, [e]⟩ (some f) :=
  inTurn_stop hrequest hfault _

theorem Ends.end_eq {ending ending' : Option Failure} (h : r.Ends d ending)
    (h' : r.Ends d ending') : ending = ending' :=
  InTurn.end_eq (fun _ _ _ _ hx hy => hx.symm.trans hy) h h'

/-- A scenario whose commands could be words goes wrong for the bridge only. -/
theorem Ends.isCommand (h : r.Ends d (some f))
    (hnull : ∀ command ∈ r.commands, '\x00' ∉ command.toList) : f.IsCommand := by
  obtain ⟨hrequests, before, e, hexchanges, -, hfault⟩ := h
  have hmem : e.request ∈ r.commands.map .shell := by
    refine hrequests.subset (List.mem_map_of_mem ?_)
    rw [hexchanges]
    exact List.mem_append_right _ List.mem_cons_self
  obtain ⟨command, hcommand, hrequest⟩ := List.mem_map.1 hmem
  refine isCommand_of_fault? ?_ hfault
  have hlast : e.words.getLast?.getD "" = command := by
    rw [Exchange.words, ← hrequest]
    simp [Request.words]
  rw [hlast]
  exact hnull command hcommand

end ScenarioRun

namespace CommandLine.ScenarioRuns

open Config (fileValue load)
open ScenarioRun (ends_stop)

section

variable {d : Device} {opening : List String} (hopening : d.opening? = some opening)

include hopening

/-- The commands of a scenario are given in turn. -/
theorem exists_run_commands (name : String) (commands : List String) (link : Link) :
    ∃ r : ScenarioRun, r.name = name ∧ r.commands = commands ∧
      Dialogue d link r.exchanges (endOf ((Scenarios.runCommands d commands).run link)) ∧
      r.Ends d (failureOf? ((Scenarios.runCommands d commands).run link)) := by
  induction commands generalizing link with
  | nil => exact ⟨⟨name, [], []⟩, rfl, rfl, .nil rfl rfl rfl, inTurn_nil⟩
  | cons command commands ih =>
    let e : Exchange := asking link opening (.shell command)
    obtain ⟨hend, hfault⟩ := run_words_ends hopening (.shell command) link
    change endOf ((d.shell command).run link) = e.next at hend
    change failureOf? ((d.shell command).run link) = e.fault? d at hfault
    have hdialogue : ∀ {es : List Exchange} {link' : Link},
        Dialogue d e.next es link' → Dialogue d link (e :: es) link' :=
      fun hrest => .cons hopening rfl rfl rfl hrest
    rw [Scenarios.runCommands, EStateM.run_bind]
    cases hrun : (d.shell command).run link with
    | error f link₁ =>
      rw [hrun] at hend hfault
      exact ⟨⟨name, command :: commands, [e]⟩, rfl, rfl, hdialogue (hend ▸ .nil rfl rfl rfl),
        ends_stop rfl hfault.symm name commands⟩
    | ok output link₁ =>
      rw [hrun] at hend hfault
      obtain ⟨r, rfl, rfl, hrest, hends⟩ := ih link₁
      obtain ⟨hsame, hsame'⟩ :=
        ends_bind_pure (Scenarios.runCommands d r.commands) (output ++ ·) link₁
      dsimp only
      rw [hsame, hsame']
      refine ⟨⟨r.name, command :: r.commands, e :: r.exchanges⟩, rfl, rfl,
        hdialogue (hend ▸ hrest), ?_⟩
      exact InTurn.cons rfl hfault.symm hends

/-- The stop for a failure of a scenario. -/
def stopOf : Failure → Stop
  | .command .. => .noted
  | f => .escaped (.device f)

/-- A scenario is run by its commands, and what is noted before and behind it changes nothing. -/
theorem exists_runOne (name : String) (commands : List String) (s : Session) :
    ∃ (r : ScenarioRun) (ending : Option Failure), r.name = name ∧ r.commands = commands ∧
      Dialogue d s.link r.exchanges (endOf ((runOne d name commands).run s)).link ∧
      r.Ends d ending ∧ failureOf? ((runOne d name commands).run s) = ending.map stopOf := by
  let link : Link :=
    { s.link with log := s.link.log ++ [⟨.info, "Running scenario " ++ name⟩] }
  obtain ⟨r, hname, hcommands, hdialogue, hends⟩ :=
    exists_run_commands hopening name commands link
  refine ⟨r, failureOf? ((Scenarios.runCommands d commands).run link), hname, hcommands, ?_⟩
  have hrun : (Scenarios.run d name commands).run s.link =
      (Scenarios.runCommands d commands).run link := rfl
  unfold runOne
  rw [EStateM.run_bind, run_attempt, hrun]
  cases hlast : (Scenarios.runCommands d commands).run link with
  | ok output link' =>
    rw [hlast] at hdialogue hends
    have hdone : Dialogue d s.link r.exchanges link' := by
      refine .of_same ?_ ?_ ?_ hdialogue <;> rfl
    dsimp only
    split
    · exact ⟨hdone.to_same rfl rfl rfl, hends, rfl⟩
    · exact ⟨hdone, hends, rfl⟩
  | error f link' =>
    rw [hlast] at hdialogue hends
    have hdone : Dialogue d s.link r.exchanges link' := by
      refine .of_same ?_ ?_ ?_ hdialogue <;> rfl
    refine ⟨?_, hends, ?_⟩
    · dsimp only
      split
      · exact hdone.to_same rfl rfl rfl
      · exact hdone
    · cases f <;> rfl

/-- Scenarios are run in turn. -/
theorem exists_runs (chosen : List (String × List String)) (s : Session) :
    ∃ (runs : List ScenarioRun) (ending : Option Failure),
      Dialogue d s.link (runs.flatMap ScenarioRun.exchanges)
        (endOf ((runAll d chosen).run s)).link ∧
      InTurn (fun r => (r.name, r.commands)) (ScenarioRun.Ends d) chosen runs ending ∧
      failureOf? ((runAll d chosen).run s) = ending.map stopOf := by
  induction chosen generalizing s with
  | nil => exact ⟨[], none, .nil rfl rfl rfl, inTurn_nil, rfl⟩
  | cons scenario chosen ih =>
    obtain ⟨name, commands⟩ := scenario
    obtain ⟨r, ending, rfl, rfl, hfirst, hends, hstop⟩ := exists_runOne hopening name commands s
    rw [runAll, EStateM.run_bind]
    cases hrun : (runOne d r.name r.commands).run s with
    | error stop s₁ =>
      rw [hrun] at hfirst hstop
      obtain ⟨f, rfl, -⟩ := Option.map_eq_some_iff.1 hstop.symm
      refine ⟨[r], some f, ?_, inTurn_stop rfl hends _, hstop⟩
      rwa [List.flatMap_cons, List.flatMap_nil, List.append_nil]
    | ok u s₁ =>
      rw [hrun] at hfirst hstop
      obtain rfl : ending = none := Option.map_eq_none_iff.1 hstop.symm
      obtain ⟨runs, ending', hrest, hturn, hstop'⟩ := ih s₁
      refine ⟨r :: runs, ending', ?_, hturn.cons rfl hends, hstop'⟩
      rw [List.flatMap_cons]
      exact hfirst.append hrest

end

/-! ## Batches -/

variable {known : Scenarios} {names words : List String} {a : Arguments}

/-- With an unknown name nothing is chosen, and all unknown names are told. -/
theorem choose_of_unknown (h : ∃ n ∈ names, n ∉ known.keys) :
    choose known names = .error (names.filter fun n => n ∉ known.keys) := by
  have hunknown : (names.filter fun n => (known.find? n).isNone) =
      names.filter fun n => n ∉ known.keys := by
    refine List.filter_congr fun n _ => ?_
    rw [Bool.eq_iff_iff, Option.isNone_iff_eq_none, Table.find?_eq_none_iff, decide_eq_true_iff]
  obtain ⟨n, hn, hkeys⟩ := h
  have hsome : (names.filter fun n => n ∉ known.keys) ≠ [] :=
    List.ne_nil_of_mem (List.mem_filter.2 ⟨hn, decide_eq_true hkeys⟩)
  unfold choose
  rw [hunknown]
  exact if_neg (by simpa using hsome)

/-- With known names only, each gives its commands. -/
theorem exists_choose (h : ∀ n ∈ names, n ∈ known.keys) :
    ∃ chosen, choose known names = .ok chosen ∧ chosen.map Prod.fst = names ∧
      ∀ scenario ∈ chosen, known.find? scenario.1 = some scenario.2 := by
  have hunknown : (names.filter fun n => (known.find? n).isNone) = [] := by
    rw [List.filter_eq_nil_iff]
    intro n hn hnone
    exact Table.find?_eq_none_iff.1 (Option.isNone_iff_eq_none.1 hnone) (h n hn)
  refine ⟨_, by unfold choose; rw [hunknown]; rfl, ?_, fun scenario hscenario => ?_⟩
  · clear hunknown
    induction names with
    | nil => rfl
    | cons n names ih =>
      obtain ⟨hn, hnames⟩ := List.forall_mem_cons.1 h
      obtain ⟨commands, hcommands⟩ := Option.isSome_iff_exists.1 (Table.mem_keys_iff.1 hn)
      rw [List.filterMap_cons, hcommands]
      exact congrArg (n :: ·) (ih hnames)
  · obtain ⟨n, -, hfound⟩ := List.mem_filterMap.1 hscenario
    obtain ⟨commands, hcommands, rfl⟩ := Option.map_eq_some_iff.1 hfound
    exact hcommands

theorem run_of_names (hread : rules.read words = .ok (.work a)) (hlist : a.has "list" = false)
    (hnames : a.names ≠ []) (known : Scenarios) (environment : Table String String) :
    run known words environment =
      match choose known a.names with
      | .error unknown => throw (.failed (unknownMessage unknown))
      | .ok chosen =>
        Work.config a environment >>= fun config => runAll config.device chosen := by
  unfold run
  rw [hread]
  dsimp only
  rw [hlist]
  exact (if_neg Bool.false_ne_true).trans (if_neg (by simpa using hnames))

/-- The exit code of a batch, by the failure with which its scenarios end, if any. -/
theorem exitCode?_of_stop {o : Outcome} {ending : Option Device.Failure}
    (h : o.stop = ending.map stopOf) :
    (o.exitCode? = some 0 ↔ ending = none) ∧
      ((∀ f, ending = some f → f.IsCommand) → o.exitCode? = some 0 ∨ o.exitCode? = some 1) := by
  unfold Outcome.exitCode?
  rw [h]
  cases ending with
  | none => exact ⟨iff_of_true rfl rfl, fun _ => Or.inl rfl⟩
  | some f =>
    refine ⟨iff_of_false ?_ nofun, fun hcommand => ?_⟩
    · cases f <;> nofun
    · obtain ⟨words, code, errors, rfl⟩ := hcommand f rfl
      exact Or.inr rfl

/-- A batch with an unknown name is refused before anything is asked of a device or read: the
report tells just the unknown names, in their order.  With known names only and a failure of the
configuration nothing is asked either.  With a configuration the scenarios are run in turn, each by
the commands that it has, up to the first whose command goes wrong; the exit code is zero just when
all of them are run and none goes wrong, and one otherwise. -/
theorem batch_runs_in_turn (hread : rules.read words = .ok (.work a)) (hlist : a.has "list" = false)
    (hnames : a.names ≠ []) (known : Scenarios) (environment : Table String String) (s : Session) :
    let o := (run known words environment).outcome s
    ((∃ n ∈ a.names, n ∉ known.keys) →
      o.session = s ∧ o.exitCode? = some 1 ∧ ∀ stamp tag, o.errorLines stamp tag =
        (⟨s, none⟩ : Outcome).errorLines stamp tag ++ [Outcome.reportLine
          (unknownMessage (a.names.filter fun n => n ∉ known.keys))]) ∧
    ((∀ n ∈ a.names, n ∈ known.keys) → ∀ file,
      (fileValue s.readConfig s.link.files ((a.text? "config").getD "")).outcome = .ok file →
      (∀ e, load ⟨a.options, environment, file⟩ = .error e →
        StopsFor e s o ∧ o.exitCode? ≠ some 0) ∧
      ∀ config opening, load ⟨a.options, environment, file⟩ = .ok config →
        config.device.opening? = some opening →
        ∃ (runs : List ScenarioRun) (ending : Option Device.Failure),
          InTurn ScenarioRun.name (ScenarioRun.Ends config.device) a.names runs ending ∧
          (∀ r ∈ runs, known.find? r.name = some r.commands) ∧
          Dialogue config.device s.link (runs.flatMap ScenarioRun.exchanges) o.session.link ∧
          o.session.link.calls = s.link.calls ++
            (runs.flatMap ScenarioRun.exchanges).map (fun e => opening ++ e.request.words) ∧
          (o.exitCode? = some 0 ↔
            runs.map ScenarioRun.name = a.names ∧ ∀ r ∈ runs, r.Ends config.device none) ∧
          ((∀ r ∈ runs, ∀ command ∈ r.commands, '\x00' ∉ command.toList) →
            o.exitCode? = some 0 ∨ o.exitCode? = some 1)) := by
  intro o
  have ho : o = (run known words environment).outcome s := rfl
  rw [run_of_names hread hlist hnames, Durations.outcome_eq] at ho
  refine ⟨fun hunknown => ?_, fun hknown file hfile => ?_⟩
  · rw [choose_of_unknown hunknown] at ho
    rw [ho]
    exact ⟨rfl, rfl, fun _ _ => rfl⟩
  obtain ⟨chosen, hchosen, hfst, hcommands⟩ := exists_choose hknown
  rw [hchosen] at ho
  dsimp only at ho
  rw [EStateM.run_bind] at ho
  refine ⟨fun e hload => ?_, fun config opening hload hopening => ?_⟩
  · refine ⟨ScenarioRuns.stopsFor hread hlist hnames hchosen hfile hload, ?_⟩
    obtain ⟨log, hconfig⟩ := run_config_of_error hfile hload
    rw [hconfig] at ho
    rw [ho]
    cases e <;> nofun
  obtain ⟨log, hconfig⟩ := run_config_of_load hfile hload
  obtain ⟨runs, ending, hdialogue, hturn, hstop⟩ :=
    exists_runs hopening chosen { s with link := { s.link with log } }
  rw [hconfig] at ho
  dsimp only at ho
  have hnamed : InTurn ScenarioRun.name (ScenarioRun.Ends config.device) a.names runs ending :=
    hfst ▸ hturn.map Prod.fst
  have hends : (endOf ((runAll config.device chosen).run
      { s with link := { s.link with log } })).link = o.session.link := by
    rw [ho]
    cases (runAll config.device chosen).run { s with link := { s.link with log } } <;> rfl
  have hdialogue' : Dialogue config.device s.link (runs.flatMap ScenarioRun.exchanges)
      o.session.link := by
    rw [← hends]
    refine .of_same ?_ ?_ ?_ hdialogue <;> rfl
  have hopenings := hdialogue'.opening_eq hopening
  have hstop' : o.stop = ending.map stopOf := by
    rw [ho, ← hstop]
    cases (runAll config.device chosen).run { s with link := { s.link with log } } <;> rfl
  obtain ⟨hzero, hexit⟩ := exitCode?_of_stop hstop'
  refine ⟨runs, ending, hnamed, fun r hr => ?_, hdialogue', ?_, ?_, fun hnull => ?_⟩
  · exact hcommands _ (hturn.map_isPrefix.subset (List.mem_map_of_mem hr))
  · rw [hdialogue'.calls_eq]
    congr 1
    exact List.map_congr_left fun e he => by rw [Exchange.words, hopenings e he]
  · rw [hzero]
    constructor
    · rintro rfl
      exact hnamed
    · intro hall
      exact InTurn.end_eq (fun _ _ _ _ hx hy => hx.end_eq hy) hnamed hall
  · refine hexit ?_
    rintro f rfl
    obtain ⟨-, before, last, rfl, -, hlast⟩ := hnamed
    exact hlast.isCommand (hnull last (List.mem_append_right _ List.mem_cons_self))

/-- One scenario twice. -/
def mediaTwice : List String := ["open-bluetooth-media", "open-bluetooth-media"]

/-- Names of which only one is known. -/
def mediaAmongUnknown : List String := ["x", "open-bluetooth-media", "y", "x"]

/-- A session in which the second command goes wrong, and no other would. -/
def failingSecond : Session :=
  .start .empty [.exited 0 "Starting" "" none, .exited 1 "" "gone" none] .zero

theorem second_media_fails :
    let o := (run Scenarios.builtIn mediaTwice .empty).outcome failingSecond
    let o' := (run Scenarios.builtIn mediaAmongUnknown .empty).outcome failingSecond
    o.exitCode? = some 1 ∧
      o.session.link.calls = [["adb", "shell", Scenarios.openMediaCommand],
        ["adb", "shell", Scenarios.openMediaCommand]] ∧
      (∃ (d : Device) (runs : List ScenarioRun) (f : Device.Failure),
        InTurn ScenarioRun.name (ScenarioRun.Ends d) mediaTwice runs (some f) ∧
        o.session.link.calls =
          (runs.flatMap ScenarioRun.exchanges).map fun e => ["adb"] ++ e.request.words) ∧
      o'.session.link.calls = [] ∧
      o'.errorLines "TIME" tag = ["Error: unknown scenario(s): x, y, x"] := by
  intro o o'
  have hexit : o.exitCode? = some 1 := by decide +kernel
  have hcalls : o.session.link.calls = [["adb", "shell", Scenarios.openMediaCommand],
      ["adb", "shell", Scenarios.openMediaCommand]] := by decide +kernel
  obtain ⟨-, hknown⟩ := batch_runs_in_turn (a := ⟨.ofList [], mediaTwice⟩)
    (show rules.read mediaTwice = _ from rfl) rfl (List.cons_ne_nil _ _) Scenarios.builtIn .empty
    failingSecond
  obtain ⟨runs, ending, hturn, -, -, hasked, hzero, -⟩ :=
    (hknown (by decide) (.map []) rfl).2 _ ["adb"] rfl rfl
  obtain ⟨hunknown, -⟩ := batch_runs_in_turn (a := ⟨.ofList [], mediaAmongUnknown⟩)
    (show rules.read mediaAmongUnknown = _ from rfl) rfl (List.cons_ne_nil _ _) Scenarios.builtIn
    .empty failingSecond
  obtain ⟨hsession, -, hlines⟩ := hunknown (by decide)
  refine ⟨hexit, hcalls, ?_, congrArg (fun s => s.link.calls) hsession, ?_⟩
  · cases ending with
    | none => cases hexit.symm.trans (hzero.2 hturn)
    | some f => exact ⟨_, runs, f, hturn, hasked⟩
  · refine (hlines "TIME" tag).trans ?_
    decide +kernel

end CommandLine.ScenarioRuns

end SectionTimes
