import SectionTimes.Proofs.Device.Asking
import SectionTimes.Proofs.Files.Obstacle

/-!
# How every call begins

The words for the bridge begin with its name and the device that is meant, and only these come from
the settings of the device.  If they are texts, whatever is asked for reaches the bridge; if not,
nothing does.
-/

namespace SectionTimes

/-- A value is a text. -/
def Value.IsText (v : Value) : Prop := v.text?.isSome = true

namespace Device

open Text

/-- The words with which every call begins, if they are texts. -/
def opening? (d : Device) : Option (List String) := texts? (d.words [])

theorem texts?_append (vs ws : List Value) :
    texts? (vs ++ ws) = (texts? vs).bind fun a => (texts? ws).map (a ++ ·) := by
  induction vs with
  | nil => cases h : texts? ws <;> simp [texts?, h]
  | cons v vs ih =>
    simp only [List.cons_append, texts?, ih]
    cases v.text? with
    | none => rfl
    | some s =>
      cases texts? vs with
      | none => rfl
      | some a => cases texts? ws <;> rfl

theorem texts?_map_text (words : List String) : texts? (words.map .text) = some words := by
  induction words with
  | nil => rfl
  | cons word words ih =>
    simp only [List.map_cons, texts?, ih]
    rfl

/-- What is asked for stands behind the opening. -/
theorem texts?_words (d : Device) (arguments : List String) :
    texts? (d.words arguments) = d.opening?.map (· ++ arguments) := by
  have hwords : d.words arguments = d.words [] ++ arguments.map .text := by
    unfold words
    rw [List.map_nil, List.append_nil]
  rw [hwords, texts?_append, texts?_map_text]
  unfold opening?
  cases texts? (d.words []) <;> rfl

/-- A run of the bridge asks once, for its arguments behind the opening. -/
theorem calls_run_of_opening?_eq_some {d : Device} {opening : List String}
    (h : d.opening? = some opening) (arguments : List String) (link : Link) :
    (endOf ((d.run arguments).run link)).calls = link.calls ++ [opening ++ arguments] := by
  rw [calls_run, texts?_words, h]
  rfl

theorem isSome_texts?_iff (vs : List Value) :
    (texts? vs).isSome = true ↔ ∀ v ∈ vs, v.IsText := by
  induction vs with
  | nil => simp [texts?]
  | cons v vs ih =>
    rw [List.forall_mem_cons, ← ih, Value.IsText]
    simp only [texts?]
    cases v.text? <;> cases texts? vs <;> simp

theorem isSome_opening?_iff (d : Device) :
    d.opening?.isSome = true ↔
      d.bridge.IsText ∧ (d.serial.isTruthy = true → d.serial.IsText) := by
  have hmark : (Value.text "-s").IsText := rfl
  unfold opening? words
  rw [isSome_texts?_iff, List.map_nil, List.append_nil, List.forall_mem_cons]
  cases d.serial.isTruthy <;> simp [hmark]

variable {d : Device} {link : Link}

/-! ## Single runs of the bridge -/

/-- Without an opening the bridge is not run. -/
theorem run_of_opening?_eq_none (h : d.opening? = none) (arguments : List String) (link : Link) :
    (d.run arguments).run link = .error .notText link := by
  unfold run
  rw [texts?_words, h]
  rfl

/-- The link on which the bridge is asked. -/
def noting (link : Link) (words : List String) : Link :=
  { link with log := link.log ++ [⟨.debug, "Running: " ++ " ".intercalate words⟩] }

/-- With an opening the bridge is run, and its reply tells what comes of it. -/
theorem run_of_opening?_eq_some {opening : List String} (h : d.opening? = some opening)
    (arguments : List String) (link : Link) :
    (d.run arguments).run link =
      match (ask (opening ++ arguments)).run (noting link (opening ++ arguments)) with
      | .error e link' => .error e link'
      | .ok (.exited code output errors _) link' =>
        if code = 0 then .ok output link'
        else .error (.command (opening ++ arguments) (some code) errors) link'
      | .ok .timedOut link' =>
        .error (.command (opening ++ arguments) none
          s!"timed out after {d.timeout.toShortest}s") link'
      | .ok (.notStarted cause) link' =>
        .error (.command (opening ++ arguments) none cause) link' := by
  unfold run
  rw [texts?_words, h]
  dsimp only [Option.map]
  rw [EStateM.run_bind]
  change EStateM.run _ (noting link (opening ++ arguments)) = _
  rw [EStateM.run_bind]
  cases (ask (opening ++ arguments)).run (noting link (opening ++ arguments)) with
  | error e link' => rfl
  | ok reply link' =>
    cases reply with
    | exited code output errors written =>
      dsimp only
      split
      · rfl
      · rfl
    | timedOut => rfl
    | notStarted cause => rfl

theorem exists_host_of_ask {words : List String} {e : Failure} {link' : Link}
    (h : (ask words).run link = .error e link') : ∃ path obstacle, e = .host path obstacle := by
  unfold ask EStateM.run at h
  dsimp only at h
  split at h
  · split at h
    · cases h
    · cases h
      exact ⟨_, _, rfl⟩
    · cases h
  · cases h

/-- The bridge cannot be asked at all only where it would write a file at a path with a null
character in it. -/
theorem null_mem_of_ask {words : List String} {e : Failure} {link' : Link}
    (h : (ask words).run link = .error e link') :
    '\x00' ∈ (words.getLast?.getD "").toList := by
  unfold ask EStateM.run at h
  dsimp only at h
  split at h
  · split at h
    · cases h
    · rename_i files path hwrite
      have hnull := congrArg Prod.snd hwrite
      exact Files.null_mem_of_write hnull
    · cases h
  · cases h

/-- A run of the bridge that is asked fails for what the bridge says or for the files of the
host, and for nothing else. -/
theorem error_of_run {opening arguments : List String} (h : d.opening? = some opening)
    {e : Failure} {link' : Link} (hrun : (d.run arguments).run link = .error e link') :
    (∃ path obstacle, e = .host path obstacle) ∨
      ∃ code errors, e = .command (opening ++ arguments) code errors := by
  rw [run_of_opening?_eq_some h] at hrun
  cases hask : (ask (opening ++ arguments)).run (noting link (opening ++ arguments)) with
  | error e' link₁ =>
    rw [hask] at hrun
    cases hrun
    exact Or.inl (exists_host_of_ask hask)
  | ok reply link₁ =>
    rw [hask] at hrun
    refine Or.inr ?_
    cases reply with
    | exited code output errors written =>
      dsimp only at hrun
      split at hrun
      · cases hrun
      · cases hrun
        exact ⟨_, _, rfl⟩
    | timedOut =>
      cases hrun
      exact ⟨_, _, rfl⟩
    | notStarted cause =>
      cases hrun
      exact ⟨_, _, rfl⟩

theorem run_ne_notText {opening : List String} (h : d.opening? = some opening)
    (arguments : List String) (link link' : Link) :
    (d.run arguments).run link ≠ .error .notText link' := by
  intro hrun
  rcases error_of_run h hrun with ⟨path, obstacle, he⟩ | ⟨code, errors, he⟩
  · cases he
  · cases he

/-! ## Lists and files -/

/-- What is absent is listed as the empty word. -/
theorem text?_cases {remote : Value} (h : remote.IsText ∨ remote.isTruthy = false) :
    remote.text? = some (remote.text?.getD "") ∨
      remote.text? = none ∧ remote.isTruthy = false ∧ remote.text?.getD "" = "" := by
  cases htext : remote.text? with
  | some word => exact Or.inl rfl
  | none => exact Or.inr ⟨rfl, h.resolve_left (by simp [Value.IsText, htext]), rfl⟩

theorem run_list {remote : Value} {word : String}
    (h : remote.text? = some word ∨ remote.text? = none ∧ remote.isTruthy = false ∧ word = "")
    (d : Device) (link : Link) :
    (d.list remote).run link =
      match (d.run ["shell", "ls " ++ shellQuote word]).run link with
      | .ok output link' => .ok (namesIn output) link'
      | .error e link' => .error e link' := by
  have hword : (shellWordOf remote).run link = .ok (shellQuote word) link := by
    unfold shellWordOf
    rcases h with h | ⟨h, hfalsy, rfl⟩
    · rw [h]
      rfl
    · rw [h, hfalsy]
      rfl
  unfold list shell
  rw [EStateM.run_bind, hword]
  dsimp only
  rw [EStateM.run_bind]
  cases (d.run ["shell", "ls " ++ shellQuote word]).run link <;> rfl

/-- What is no text and not absent cannot be listed. -/
theorem run_list_of_not_isText {remote : Value} (h : ¬ remote.IsText)
    (htruthy : remote.isTruthy = true) (d : Device) (link : Link) :
    (d.list remote).run link = .error .notText link := by
  have hnone : remote.text? = none := Option.not_isSome_iff_eq_none.1 h
  unfold list shellWordOf
  rw [hnone, htruthy]
  rfl

/-- The files of the host when there is a folder for a file to come. -/
def makeWay (files : Files) (localPath : String) : Files.Changed :=
  if (Files.pathOf (Files.above (Files.lexically localPath))).isEmpty then (files, none)
  else files.makeFolders (Files.pathOf (Files.above (Files.lexically localPath)))

theorem run_pull_eq (d : Device) (remote localPath : String) (link : Link) :
    (d.pull remote localPath).run link = (do
      set { link with files := (makeWay link.files localPath).1 }
      if let some (path, obstacle) := (makeWay link.files localPath).2 then
        throw (.host path obstacle)
      let _ ← d.run ["pull", remote, localPath]
      note .info ("Pulled " ++ remote ++ " -> " ++ localPath)
      return localPath : Talk String).run link := by
  unfold pull makeWay
  rfl

/-- A file is fetched once there is a folder for it. -/
theorem run_pull (d : Device) (remote localPath : String) (link : Link) :
    (d.pull remote localPath).run link =
      match makeWay link.files localPath with
      | (files, some (path, obstacle)) => .error (.host path obstacle) { link with files }
      | (files, none) =>
        match (d.run ["pull", remote, localPath]).run { link with files } with
        | .ok _ link' =>
          .ok localPath
            { link' with
              log := link'.log ++ [⟨.info, "Pulled " ++ remote ++ " -> " ++ localPath⟩] }
        | .error e link' => .error e link' := by
  rw [run_pull_eq]
  obtain ⟨files, _ | ⟨path, obstacle⟩⟩ := makeWay link.files localPath
  · change EStateM.run (_ >>= _) { link with files } = _
    rw [EStateM.run_bind]
    dsimp only
    cases (d.run ["pull", remote, localPath]).run { link with files } <;> rfl
  · rfl

/-! ## Operations -/

/-- What is done with a device by one run of the bridge. -/
inductive Operation where
  | shell (command : String)
  | list (remote : Value)
  | flag (name : String)
  | pull (remote localPath : String)

namespace Operation

def run (d : Device) : Operation → Talk Unit
  | .shell command => do let _ ← d.shell command
  | .list remote => do let _ ← d.list remote
  | .flag name => do let _ ← d.flag name
  | .pull remote localPath => do let _ ← d.pull remote localPath

/-- What the bridge is asked for. -/
def words : Operation → List String
  | .shell command => ["shell", command]
  | .list remote => ["shell", "ls " ++ shellQuote (remote.text?.getD "")]
  | .flag name =>
    match splitFlagName? name with
    | some (package, switch) =>
      ["shell", "device_config get " ++ shellQuote package ++ " " ++ shellQuote switch]
    | none => []
  | .pull remote localPath => ["pull", remote, localPath]

/-- What is asked for makes sense, and a file can be put where it is to go. -/
def IsReady (link : Link) : Operation → Prop
  | .shell _ => True
  | .list remote => remote.IsText ∨ remote.isTruthy = false
  | .flag name => (splitFlagName? name).isSome = true
  | .pull _ localPath => (makeWay link.files localPath).2 = none

variable {op : Operation}

theorem run_bind_unit {α : Type} (work : Talk α) (link : Link) :
    (do let _ ← work : Talk Unit).run link =
      match work.run link with
      | .ok _ link' => .ok () link'
      | .error e link' => .error e link' := by
  rw [EStateM.run_bind]
  cases work.run link <;> rfl

/-- An operation runs the bridge once, and fails just where that fails. -/
theorem exists_run (h : op.IsReady link) :
    ∃ link₀, link₀.calls = link.calls ∧
      match (d.run op.words).run link₀ with
      | .ok _ link₁ => ∃ link₂, (op.run d).run link = .ok () link₂ ∧ link₂.calls = link₁.calls
      | .error e link₁ => (op.run d).run link = .error e link₁ := by
  cases op with
  | shell command =>
    refine ⟨link, rfl, ?_⟩
    unfold Operation.run words
    dsimp only
    rw [run_bind_unit]
    unfold Device.shell
    cases (d.run ["shell", command]).run link with
    | ok output link₁ => exact ⟨link₁, rfl, rfl⟩
    | error e link₁ => rfl
  | list remote =>
    refine ⟨link, rfl, ?_⟩
    unfold Operation.run words
    dsimp only
    rw [run_bind_unit, run_list (text?_cases h)]
    cases (d.run _).run link with
    | ok output link₁ => exact ⟨link₁, rfl, rfl⟩
    | error e link₁ => rfl
  | flag name =>
    refine ⟨link, rfl, ?_⟩
    obtain ⟨parts, hparts⟩ := Option.isSome_iff_exists.1 h
    unfold Operation.run words
    dsimp only
    rw [run_bind_unit, run_flag, hparts]
    dsimp only
    cases (d.run ["shell", "device_config get " ++ shellQuote parts.1 ++ " " ++
      shellQuote parts.2]).run link with
    | ok output link₁ => exact ⟨link₁, rfl, rfl⟩
    | error e link₁ => rfl
  | pull remote localPath =>
    obtain ⟨files, hway⟩ : ∃ files, makeWay link.files localPath = (files, none) :=
      ⟨_, Prod.ext rfl h⟩
    refine ⟨{ link with files }, rfl, ?_⟩
    unfold Operation.run words
    dsimp only
    rw [run_bind_unit, run_pull, hway]
    dsimp only
    cases (d.run ["pull", remote, localPath]).run { link with files } with
    | ok output link₁ => exact ⟨_, rfl, rfl⟩
    | error e link₁ => rfl

/-- An operation asks the bridge once if there is an opening, and not at all if there is none. -/
theorem calls_run (h : op.IsReady link) :
    (endOf ((op.run d).run link)).calls =
      link.calls ++ (d.opening?.map (· ++ op.words)).toList := by
  obtain ⟨link₀, hlink, hrun⟩ := exists_run (d := d) h
  have hcalls := Device.calls_run d link₀ op.words
  rw [texts?_words, hlink] at hcalls
  rw [← hcalls]
  cases hfirst : (d.run op.words).run link₀ with
  | ok output link₁ =>
    rw [hfirst] at hrun
    obtain ⟨link₂, hrun, hsame⟩ := hrun
    rw [hrun]
    exact hsame
  | error e link₁ =>
    rw [hfirst] at hrun
    rw [hrun]
    rfl

/-- An operation fails for a setting that is no text just where there is no opening. -/
theorem run_eq_notText_iff (h : op.IsReady link) :
    (∃ link', (op.run d).run link = .error .notText link') ↔ d.opening? = none := by
  obtain ⟨link₀, -, hrun⟩ := exists_run (d := d) h
  cases hopening : d.opening? with
  | none =>
    rw [run_of_opening?_eq_none hopening] at hrun
    exact iff_of_true ⟨link₀, hrun⟩ rfl
  | some opening =>
    refine iff_of_false ?_ nofun
    rintro ⟨link', hnot⟩
    cases hfirst : (d.run op.words).run link₀ with
    | ok output link₁ =>
      rw [hfirst] at hrun
      obtain ⟨link₂, hrun, -⟩ := hrun
      cases hrun.symm.trans hnot
    | error e link₁ =>
      rw [hfirst] at hrun
      cases hrun.symm.trans hnot
      exact run_ne_notText hopening _ _ _ hfirst

end Operation

end Device

end SectionTimes
