import SectionTimes.Proofs.Device.Exchange
import SectionTimes.Proofs.Flag.Lookup
import SectionTimes.Scenario
import SectionTimes.Screen.AllApps

/-!
# The first failure is the last

Everything that is done with a device stops at the first reply of the bridge that is a failure, and
fails with it.  No later step is tried, and nothing between the bridge and the caller takes the
failure away or puts another in its place.
-/

namespace SectionTimes

namespace Device

/-- A failure that the bridge is blamed for. -/
def Failure.IsCommand (f : Failure) : Prop := ∃ words code errors, f = .command words code errors

variable {σ α β : Type} {d : Device} {linkOf : σ → Link} {link link₁ : Link}
  {es es' : List Exchange}

/-! ## Fail-stop work -/

/-- How work ends that went through some exchanges.  If it succeeds, no reply was a failure.  If it
fails for the bridge, the last reply was this failure, and the only one; if it fails for another
reason, no reply was a failure. -/
def Ends (d : Device) (linkOf : σ → Link) (link : Link) (es : List Exchange) :
    EStateM.Result Failure σ α → Prop
  | .ok _ s => Dialogue d link es (linkOf s) ∧ ∀ e ∈ es, e.failure? d = none
  | .error f s =>
    (∃ link₁, Dialogue d link es link₁ ∧ (linkOf s).calls = link₁.calls) ∧
      ((∀ e ∈ es, e.failure? d = none) ∧ ¬ f.IsCommand ∨
        ∃ before e, es = before ++ [e] ∧ (∀ e' ∈ before, e'.failure? d = none) ∧
          e.failure? d = some f)

/-- Work that goes through some exchanges and ends so. -/
def IsFailStop (d : Device) (linkOf : σ → Link) (work : EStateM Failure σ α) : Prop :=
  ∀ s, ∃ es, Ends d linkOf (linkOf s) es (work.run s)

theorem Ends.append {r : EStateM.Result Failure σ α} (h : Dialogue d link es link₁)
    (hgood : ∀ e ∈ es, e.failure? d = none) (h' : Ends d linkOf link₁ es' r) :
    Ends d linkOf link (es ++ es') r := by
  have hall : (∀ e ∈ es', e.failure? d = none) → ∀ e ∈ es ++ es', e.failure? d = none :=
    fun hgood' e he => (List.mem_append.1 he).elim (hgood e) (hgood' e)
  cases r with
  | ok a s => exact ⟨h.append h'.1, hall h'.2⟩
  | error f s =>
    obtain ⟨⟨link₂, hdialogue, hcalls⟩, hend⟩ := h'
    refine ⟨⟨link₂, h.append hdialogue, hcalls⟩, ?_⟩
    rcases hend with ⟨hgood', hf⟩ | ⟨before, e, rfl, hgood', hf⟩
    · exact Or.inl ⟨hall hgood', hf⟩
    · refine Or.inr ⟨es ++ before, e, (List.append_assoc _ _ _).symm, fun e' he' => ?_, hf⟩
      exact (List.mem_append.1 he').elim (hgood e') (hgood' e')

theorem IsFailStop.bind {x : EStateM Failure σ α} {f : α → EStateM Failure σ β}
    (hx : IsFailStop d linkOf x) (hf : ∀ a, IsFailStop d linkOf (f a)) :
    IsFailStop d linkOf (x >>= f) := by
  intro s
  obtain ⟨es, h⟩ := hx s
  rw [EStateM.run_bind]
  cases hrun : x.run s with
  | ok a s₁ =>
    rw [hrun] at h
    obtain ⟨es', h'⟩ := hf a s₁
    exact ⟨es ++ es', .append h.1 h.2 h'⟩
  | error e s₁ =>
    rw [hrun] at h
    exact ⟨es, h⟩

/-- Work that succeeds and leaves all of the link but its log is fail-stop. -/
theorem isFailStop_of_same {work : EStateM Failure σ α}
    (h : ∀ s, ∃ a s', work.run s = .ok a s' ∧ (linkOf s').calls = (linkOf s).calls ∧
      (linkOf s').replies = (linkOf s).replies ∧ (linkOf s').files = (linkOf s).files) :
    IsFailStop d linkOf work := by
  intro s
  obtain ⟨a, s', hrun, hcalls, hreplies, hfiles⟩ := h s
  rw [hrun]
  exact ⟨[], .nil hcalls hreplies hfiles, List.forall_mem_nil _⟩

theorem isFailStop_pure (a : α) : IsFailStop d linkOf (pure a) :=
  isFailStop_of_same fun s => ⟨a, s, rfl, rfl, rfl, rfl⟩

theorem isFailStop_throw {f : Failure} (hf : ¬ f.IsCommand) :
    IsFailStop d linkOf (throw f : EStateM Failure σ α) :=
  fun s => ⟨[], ⟨linkOf s, .nil rfl rfl rfl, rfl⟩, Or.inl ⟨List.forall_mem_nil _, hf⟩⟩

theorem isFailStop_note (level : Level) (message : String) :
    IsFailStop d id (note level message) :=
  isFailStop_of_same fun _ => ⟨(), _, rfl, rfl, rfl, rfl⟩

/-! ## Requests -/

/-- The exchange in which a request is made. -/
def asking (link : Link) (opening : List String) (request : Request) : Exchange :=
  ⟨noting link (opening ++ request.words), opening, request⟩

/-- A run of the bridge goes as the exchange does. -/
theorem run_words {opening : List String} (h : d.opening? = some opening) (request : Request)
    (link : Link) :
    (d.run request.words).run link =
      match (asking link opening request).result with
      | .error f link' => .error f link'
      | .ok reply link' =>
        match reply.complaint? d.timeout with
        | none => .ok (reply.output?.getD "") link'
        | some errors =>
          .error (.command (opening ++ request.words) reply.exitCode? errors) link' := by
  have hresult : (asking link opening request).result =
    (ask (opening ++ request.words)).run (noting link (opening ++ request.words)) := rfl
  rw [run_of_opening?_eq_some h, hresult]
  cases (ask (opening ++ request.words)).run (noting link (opening ++ request.words)) with
  | error f link' => rfl
  | ok reply link' =>
    cases reply with
    | exited code output errors written =>
      unfold Reply.complaint? Reply.output?
      by_cases hcode : code = 0
      · simp only [hcode, if_true, Option.getD_some]
      · simp only [hcode, if_false]
        rfl
    | timedOut => rfl
    | notStarted cause => rfl

/-- A run of the bridge ends as the exchange does, and with its fault. -/
theorem run_words_ends {opening : List String} (h : d.opening? = some opening) (request : Request)
    (link : Link) :
    endOf ((d.run request.words).run link) = (asking link opening request).next ∧
      failureOf? ((d.run request.words).run link) = (asking link opening request).fault? d := by
  rw [run_words h]
  unfold Exchange.next Exchange.fault? Exchange.failure? Exchange.reply?
  cases (asking link opening request).result with
  | error f link' => exact ⟨rfl, rfl⟩
  | ok reply link' =>
    dsimp only [Option.bind]
    cases reply.complaint? d.timeout with
    | none => exact ⟨rfl, rfl⟩
    | some errors => exact ⟨rfl, rfl⟩

/-- Where no file could be asked for at an impossible path, only the bridge is to blame. -/
theorem isCommand_of_fault? {e : Exchange} {f : Failure}
    (hnull : '\x00' ∉ (e.words.getLast?.getD "").toList) (h : e.fault? d = some f) :
    f.IsCommand := by
  unfold Exchange.fault? at h
  cases hresult : e.result with
  | error f' link' => exact absurd (null_mem_of_ask hresult) hnull
  | ok reply link' =>
    rw [hresult] at h
    obtain ⟨_, _, hcomplaint⟩ := Option.bind_eq_some_iff.1 (show e.failure? d = some f from h)
    obtain ⟨errors, -, rfl⟩ := Option.map_eq_some_iff.1 hcomplaint
    exact ⟨_, _, _, rfl⟩

/-- A shell command that could be a word goes wrong for the bridge only. -/
theorem failsBy_shell {opening : List String} (hopening : d.opening? = some opening)
    {command : String} (hnull : '\x00' ∉ command.toList) :
    FailsBy Failure.IsCommand (d.shell command) := by
  intro link f link' hrun
  obtain ⟨-, hfault⟩ := run_words_ends hopening (.shell command) link
  have hfailure : failureOf? ((d.shell command).run link) = some f :=
    failureOf?_eq_some_iff.2 ⟨link', hrun⟩
  refine isCommand_of_fault? ?_ (hfault.symm.trans hfailure)
  simpa [asking, Exchange.words, Request.words] using hnull

/-- A request is one exchange, and ends as its reply says. -/
theorem exists_ends_run (request : Request) {link₀ : Link} (hcalls : link₀.calls = link.calls)
    (hreplies : link₀.replies = link.replies)
    (hfiles : link₀.files = request.readied link.files) :
    ∃ es, Ends d id link es ((d.run request.words).run link₀) := by
  cases hopening : d.opening? with
  | none =>
    rw [run_of_opening?_eq_none hopening]
    exact ⟨[], ⟨link, .nil rfl rfl rfl, hcalls⟩, Or.inl ⟨List.forall_mem_nil _, nofun⟩⟩
  | some opening =>
    have hdialogue : Dialogue d link [asking link₀ opening request]
        (asking link₀ opening request).next :=
      .cons hopening hcalls hreplies hfiles (.nil rfl rfl rfl)
    refine ⟨[asking link₀ opening request], ?_⟩
    rw [run_words hopening]
    unfold Exchange.next at hdialogue
    cases hresult : (asking link₀ opening request).result with
    | error f link' =>
      rw [hresult] at hdialogue
      obtain ⟨path, obstacle, rfl⟩ := exists_host_of_ask hresult
      have hfailure : (asking link₀ opening request).failure? d = none := by
        unfold Exchange.failure? Exchange.reply?
        rw [hresult]
        rfl
      exact ⟨⟨link', hdialogue, rfl⟩, Or.inl ⟨List.forall_mem_singleton.2 hfailure, nofun⟩⟩
    | ok reply link' =>
      rw [hresult] at hdialogue
      have hfailure : (asking link₀ opening request).failure? d =
          (reply.complaint? d.timeout).map fun errors =>
            .command (opening ++ request.words) reply.exitCode? errors := by
        unfold Exchange.failure? Exchange.reply?
        rw [hresult]
        rfl
      dsimp only
      cases hcomplaint : reply.complaint? d.timeout with
      | none =>
        rw [hcomplaint] at hfailure
        exact ⟨hdialogue, List.forall_mem_singleton.2 hfailure⟩
      | some errors =>
        rw [hcomplaint] at hfailure
        exact ⟨⟨link', hdialogue, rfl⟩,
          Or.inr ⟨[], _, rfl, List.forall_mem_nil _, hfailure⟩⟩

/-! ## Operations -/

theorem isFailStop_shell (d : Device) (command : String) : IsFailStop d id (d.shell command) :=
  fun _ => exists_ends_run (.shell command) rfl rfl rfl

theorem isFailStop_pull (d : Device) (remote localPath : String) :
    IsFailStop d id (d.pull remote localPath) := by
  intro link
  rw [run_pull]
  obtain ⟨files, hfiles⟩ : ∃ files, files = (makeWay link.files localPath).1 := ⟨_, rfl⟩
  obtain ⟨es, h⟩ : ∃ es, Ends d id link es
      ((d.run ["pull", remote, localPath]).run { link with files }) :=
    exists_ends_run (.pull remote localPath) rfl rfl hfiles
  cases hway : makeWay link.files localPath with
  | mk files' obstacle =>
    rw [hway] at hfiles
    subst hfiles
    cases obstacle with
    | some place =>
      exact ⟨[], ⟨link, .nil rfl rfl rfl, rfl⟩, Or.inl ⟨List.forall_mem_nil _, nofun⟩⟩
    | none =>
      refine ⟨es, ?_⟩
      dsimp only
      cases hrun : (d.run ["pull", remote, localPath]).run { link with files } with
      | ok output link' =>
        rw [hrun] at h
        have hdialogue : Dialogue d link es link' := h.1
        exact ⟨hdialogue.to_same rfl rfl rfl, h.2⟩
      | error f link' =>
        rw [hrun] at h
        exact h

theorem isFailStop_list (d : Device) (remote : Value) : IsFailStop d id (d.list remote) := by
  have hword : IsFailStop d id (shellWordOf remote) := by
    unfold shellWordOf
    cases remote.text? with
    | some word => exact isFailStop_pure _
    | none =>
      dsimp only
      split
      · exact isFailStop_throw nofun
      · exact isFailStop_pure _
  exact hword.bind fun _ => (isFailStop_shell d _).bind fun _ => isFailStop_pure _

theorem isFailStop_flag (d : Device) (name : String) : IsFailStop d id (d.flag name) := by
  unfold flag
  cases splitFlagName? name with
  | none => exact isFailStop_throw nofun
  | some parts => exact (isFailStop_shell d _).bind fun _ => isFailStop_pure _

theorem isFailStop_pullNewest (d : Device) (remote folder : Value) :
    IsFailStop d id (d.pullNewest remote folder) := by
  refine (isFailStop_list d remote).bind fun names => ?_
  dsimp only
  cases (sortedNames (names.filter Bugreport.isArchiveName)).getLast? with
  | none => exact isFailStop_throw (f := .noArchives remote) nofun
  | some newest =>
    cases remote.text? with
    | none => exact isFailStop_throw (f := .noTextOperation) nofun
    | some word =>
      cases folder.text? with
      | none => exact isFailStop_throw (f := .notText) nofun
      | some path =>
        have hpull := isFailStop_pull d
          (Path.dropTrailingSlashes word ++ "/" ++ newest) (Path.join path newest)
        dsimp only
        split
        · rw [if_pos rfl]
          exact (isFailStop_throw (f := .halvedPath) nofun).bind fun _ => hpull
        · rw [if_neg Bool.false_ne_true]
          exact hpull

theorem isFailStop_runCommands (d : Device) (commands : List String) :
    IsFailStop d id (Scenarios.runCommands d commands) := by
  induction commands with
  | nil => exact isFailStop_pure _
  | cons command commands ih =>
    exact (isFailStop_shell d command).bind fun _ => ih.bind fun _ => isFailStop_pure _

theorem isFailStop_scenario (d : Device) (name : String) (commands : List String) :
    IsFailStop d id (Scenarios.run d name commands) :=
  (isFailStop_note _ _).bind fun _ => isFailStop_runCommands d commands

theorem isFailStop_openAllApps (d : Device) : IsFailStop d id (Screen.openAllApps d) :=
  (isFailStop_note _ _).bind fun _ => (isFailStop_shell d _).bind fun _ => isFailStop_pure _

theorem isFailStop_leave (d : Device) : IsFailStop d id (Screen.leave d) :=
  (isFailStop_shell d _).bind fun _ => isFailStop_pure _

theorem isFailStop_checkAllApps (d : Device) : IsFailStop d id (Screen.checkAllApps d) :=
  (isFailStop_shell d _).bind fun _ => isFailStop_pure _

/-! ## Flag checkers -/

theorem IsFailStop.talk {work : Talk α} (h : IsFailStop d id work) :
    IsFailStop d Flag.Checker.link (Flag.Checker.talk work) := by
  intro s
  obtain ⟨es, hends⟩ := h s.link
  refine ⟨es, ?_⟩
  rw [Flag.Lookup.run_talk]
  cases hrun : work.run s.link with
  | ok a link =>
    rw [hrun] at hends
    exact hends
  | error f link =>
    rw [hrun] at hends
    exact hends

theorem isFailStop_get (d : Device) (flag : String) :
    IsFailStop d Flag.Checker.link (Flag.Checker.get d flag) := by
  have hstate : IsFailStop d Flag.Checker.link EStateM.get :=
    isFailStop_of_same fun s => ⟨s, s, rfl, rfl, rfl, rfl⟩
  refine hstate.bind fun s => ?_
  cases s.cache.find? flag with
  | some state => exact isFailStop_pure state
  | none =>
    refine (isFailStop_flag d flag).talk.bind fun state => ?_
    refine IsFailStop.bind (isFailStop_of_same fun s => ⟨(), _, rfl, rfl, rfl, rfl⟩) fun _ => ?_
    exact (isFailStop_note _ _).talk.bind fun _ => isFailStop_pure state

theorem isFailStop_skipReason (d : Device) (r : Flag.Required) :
    IsFailStop d Flag.Checker.link (Flag.Checker.skipReason d r) := by
  have hkept : IsKept fun α (work : Flag.Checking α) => IsFailStop d Flag.Checker.link work :=
    ⟨isFailStop_pure, IsFailStop.bind⟩
  exact Flag.reason?_of_isKept hkept fun flag _ =>
    (isFailStop_get d flag).bind fun _ => isFailStop_pure _

/-! ## First failures -/

/-- The words before a request: the bridge, and behind a mark the device that is meant, if there is
one. -/
theorem opening?_eq_some_iff {opening : List String} :
    d.opening? = some opening ↔ ∃ bridge, d.bridge.text? = some bridge ∧
      (d.serial.isTruthy = false ∧ opening = [bridge] ∨
        d.serial.isTruthy = true ∧ ∃ serial, d.serial.text? = some serial ∧
          opening = [bridge, "-s", serial]) := by
  have hmark : (Value.text "-s").text? = some "-s" := rfl
  unfold opening? words
  cases d.serial.isTruthy with
  | false =>
    cases hbridge : d.bridge.text? with
    | none => simp [texts?, hbridge]
    | some bridge => simp [texts?, hbridge, eq_comm]
  | true =>
    cases hbridge : d.bridge.text? with
    | none => simp [texts?, hbridge]
    | some bridge =>
      cases hserial : d.serial.text? with
      | none => simp [texts?, hbridge, hserial]
      | some serial => simp [texts?, hbridge, hserial, hmark, eq_comm]

/-- A file is asked for once there is a folder for it. -/
theorem calls_pull {opening : List String} (h : d.opening? = some opening) {link : Link}
    {remote localPath : String} (hway : (makeWay link.files localPath).2 = none) :
    (endOf ((d.pull remote localPath).run link)).calls =
      link.calls ++ [opening ++ ["pull", remote, localPath]] := by
  rw [run_pull]
  cases hmade : makeWay link.files localPath with
  | mk files obstacle =>
    rw [hmade] at hway
    obtain rfl : obstacle = none := hway
    dsimp only
    rw [← calls_run_of_opening?_eq_some h _ { link with files }]
    cases (d.run ["pull", remote, localPath]).run { link with files } <;> rfl

/-- The first reply that is a failure ends work with that failure: the words are those that the
bridge was given last, and the exit code is that of the reply.  Without such a reply work does not
fail for the bridge. -/
def StopsAtFirstFailure (d : Device) (linkOf : σ → Link) (work : EStateM Failure σ α) : Prop :=
  ∀ s, ∃ es link', Dialogue d (linkOf s) es link' ∧
    (linkOf (endOf (work.run s))).calls = (linkOf s).calls ++ es.map Exchange.words ∧
    (∀ before e behind f, es = before ++ e :: behind → e.failure? d = some f →
      behind = [] ∧ ∃ s', work.run s = .error f s') ∧
    ((∀ e ∈ es, e.failure? d = none) →
      ∀ words code errors s', work.run s ≠ .error (.command words code errors) s')

/-- If only the last reply is a failure, any failure is that of the last reply. -/
theorem last_of_failure? {before before' behind : List Exchange} {e e' : Exchange} {f f' : Failure}
    (hgood : ∀ x ∈ before, x.failure? d = none) (hf : e.failure? d = some f)
    (hes : before ++ [e] = before' ++ e' :: behind) (hf' : e'.failure? d = some f') :
    behind = [] ∧ f' = f := by
  rcases List.eq_nil_or_concat behind with rfl | ⟨behind, e'', rfl⟩
  · obtain ⟨-, he⟩ := List.append_inj' hes rfl
    cases he
    exact ⟨rfl, Option.some.inj (hf'.symm.trans hf)⟩
  · -- `e'` is one of the replies before the last
    rw [List.concat_eq_append, ← List.cons_append, ← List.append_assoc] at hes
    obtain ⟨rfl, -⟩ := List.append_inj' hes rfl
    rw [hgood e' (List.mem_append_right _ List.mem_cons_self)] at hf'
    cases hf'

theorem IsFailStop.stopsAtFirstFailure {work : EStateM Failure σ α}
    (h : IsFailStop d linkOf work) : StopsAtFirstFailure d linkOf work := by
  intro s
  obtain ⟨es, hends⟩ := h s
  have hno : (∀ e ∈ es, e.failure? d = none) → ∀ before e behind f, es = before ++ e :: behind →
      e.failure? d ≠ some f := by
    rintro hgood before e behind f rfl hf
    rw [hgood e (List.mem_append_right _ List.mem_cons_self)] at hf
    cases hf
  cases hrun : work.run s with
  | ok a s' =>
    rw [hrun] at hends
    obtain ⟨hdialogue, hgood⟩ := hends
    exact ⟨es, _, hdialogue, hdialogue.calls_eq,
      fun before e behind f hes hf => absurd hf (hno hgood before e behind f hes), nofun⟩
  | error f s' =>
    rw [hrun] at hends
    obtain ⟨⟨link₁, hdialogue, hcalls⟩, hend⟩ := hends
    refine ⟨es, link₁, hdialogue, hcalls.trans hdialogue.calls_eq, ?_⟩
    rcases hend with ⟨hgood, hf⟩ | ⟨before, e, rfl, hgood, hf⟩
    · refine ⟨fun before e behind f hes hf => absurd hf (hno hgood before e behind f hes), ?_⟩
      rintro - words code errors s'' he
      cases he
      exact hf ⟨words, code, errors, rfl⟩
    · refine ⟨fun before' e' behind f' hes hf' => ?_, fun hall => ?_⟩
      · obtain ⟨hbehind, rfl⟩ := last_of_failure? hgood hf hes hf'
        exact ⟨hbehind, s', rfl⟩
      · rw [hall e (List.mem_append_right _ List.mem_cons_self)] at hf
        cases hf

/-- Whatever is done with a device stops at the first failure of the bridge and fails with it: the
failure names the words that the bridge was given, which are its name, the device that is meant and
what is asked for, and the exit code, if there was one. -/
theorem first_failure_is_last (d : Device) :
    (∀ opening, d.opening? = some opening ↔ ∃ bridge, d.bridge.text? = some bridge ∧
      (d.serial.isTruthy = false ∧ opening = [bridge] ∨
        d.serial.isTruthy = true ∧ ∃ serial, d.serial.text? = some serial ∧
          opening = [bridge, "-s", serial])) ∧
    (∀ opening link, d.opening? = some opening →
      (∀ command, (endOf ((d.shell command).run link)).calls =
        link.calls ++ [opening ++ ["shell", command]]) ∧
      ∀ remote localPath, (makeWay link.files localPath).2 = none →
        (endOf ((d.pull remote localPath).run link)).calls =
          link.calls ++ [opening ++ ["pull", remote, localPath]]) ∧
    (∀ command, StopsAtFirstFailure d id (d.shell command)) ∧
    (∀ remote localPath, StopsAtFirstFailure d id (d.pull remote localPath)) ∧
    (∀ remote, StopsAtFirstFailure d id (d.list remote)) ∧
    (∀ name, StopsAtFirstFailure d id (d.flag name)) ∧
    (∀ remote folder, StopsAtFirstFailure d id (d.pullNewest remote folder)) ∧
    StopsAtFirstFailure d id (Screen.openAllApps d) ∧
    StopsAtFirstFailure d id (Screen.leave d) ∧
    StopsAtFirstFailure d id (Screen.checkAllApps d) ∧
    (∀ name commands, StopsAtFirstFailure d id (Scenarios.run d name commands)) ∧
    StopsAtFirstFailure d id (Scenarios.openMedia d) ∧
    (∀ flag, StopsAtFirstFailure d Flag.Checker.link (Flag.Checker.get d flag)) ∧
    ∀ r, StopsAtFirstFailure d Flag.Checker.link (Flag.Checker.skipReason d r) :=
  ⟨fun _ => opening?_eq_some_iff,
    fun _ link h => ⟨fun command => calls_run_of_opening?_eq_some h ["shell", command] link,
      fun _ _ => calls_pull h⟩,
    fun command => (isFailStop_shell d command).stopsAtFirstFailure,
    fun remote localPath => (isFailStop_pull d remote localPath).stopsAtFirstFailure,
    fun remote => (isFailStop_list d remote).stopsAtFirstFailure,
    fun name => (isFailStop_flag d name).stopsAtFirstFailure,
    fun remote folder => (isFailStop_pullNewest d remote folder).stopsAtFirstFailure,
    (isFailStop_openAllApps d).stopsAtFirstFailure,
    (isFailStop_leave d).stopsAtFirstFailure,
    (isFailStop_checkAllApps d).stopsAtFirstFailure,
    fun name commands => (isFailStop_scenario d name commands).stopsAtFirstFailure,
    (isFailStop_runCommands d _).stopsAtFirstFailure,
    fun flag => (isFailStop_get d flag).stopsAtFirstFailure,
    fun r => (isFailStop_skipReason d r).stopsAtFirstFailure⟩

/-- The third command of a scenario is not given when the second one fails. -/
example :
    ∃ link, (Scenarios.run ⟨.text "", .text "adb", .zero⟩ "three" ["a", "b", "c"]).run
        (.ofReplies .empty [.exited 0 "" "" none, .exited 3 "" "gone" none]) =
          .error (.command ["adb", "shell", "b"] (some 3) "gone") link ∧
      link.calls = [["adb", "shell", "a"], ["adb", "shell", "b"]] :=
  ⟨_, rfl, rfl⟩

end Device

end SectionTimes
