import SectionTimes.Proofs.Config.Precedence

/-!
# Loading a configuration

The file is looked through, then the first number is converted, then what the file has for the
device is looked through, then the second number is converted.  Nothing else can go wrong.
-/

namespace SectionTimes

namespace Config

variable {s s' : Sources} {c : Config} {e : Failure}

/-- The configuration with two numbers given and all else as the sources have it. -/
def settled (s : Sources) (top : ℤ) (timeout : Binary64) : Config where
  folder := s.value .folder
  format := s.value .format
  top := top
  serial := s.value .serial
  bridge := s.value .bridge
  timeout := timeout
  remoteFolder := s.value .remoteFolder

/-- What is checked, in this order: the file, the first number, what the file has for the device,
the second number. -/
theorem load_eq (s : Sources) :
    load s = do
      let _ ← entriesOf s.file
      let top ← toInt "top" (s.value .top)
      let _ ← entriesOf s.deviceValue
      let timeout ← toBinary "adb timeout" (s.value .timeout)
      return settled s top timeout := by
  simp only [settled, ← pick_eq]
  rcases entriesOf_eq s.file with ⟨_, hfile⟩ | ⟨_, hfile⟩
  · unfold load
    rw [hfile]
    refine congrArg (toInt "top" _ >>= ·) (funext fun top => ?_)
    change entriesOf s.deviceValue >>= _ = _
    rcases entriesOf_eq s.deviceValue with ⟨_, hdevice⟩ | ⟨_, hdevice⟩
    · rw [hdevice]
      rfl
    · rw [hdevice]
      rfl
  · unfold load
    rw [hfile]
    rfl

theorem counts_field_iff :
    (∀ x : Setting, x.Counts (s.value x) (c.field x)) ↔
      CountsAsInt (s.value .top) c.top ∧ CountsAsBinary (s.value .timeout) c.timeout ∧
        settled s c.top c.timeout = c := by
  constructor
  · intro h
    obtain ⟨top, htop, hsame⟩ := h .top
    obtain ⟨timeout, htimeout, hsame'⟩ := h .timeout
    cases hsame
    cases hsame'
    obtain ⟨folder, format, top, serial, bridge, timeout, remoteFolder⟩ := c
    refine ⟨htop, htimeout, ?_⟩
    rw [settled, ← h .folder, ← h .format, ← h .serial, ← h .bridge, ← h .remoteFolder]
    rfl
  · rintro ⟨htop, htimeout, hsettled⟩ x
    rw [← hsettled]
    cases x with
    | top => exact ⟨_, htop, rfl⟩
    | timeout => exact ⟨_, htimeout, rfl⟩
    | _ => exact rfl

theorem load_eq_ok_iff :
    load s = .ok c ↔ s.HasMappings ∧ ∀ x : Setting, x.Counts (s.value x) (c.field x) := by
  rw [counts_field_iff, load_eq]
  constructor
  · intro h
    obtain ⟨_, hfile, h⟩ := exists_of_bind h
    obtain ⟨top, htop, h⟩ := exists_of_bind h
    obtain ⟨_, hdevice, h⟩ := exists_of_bind h
    obtain ⟨timeout, htimeout, h⟩ := exists_of_bind h
    cases h
    exact ⟨⟨(entriesOf_eq_ok_iff.1 hfile).1, (entriesOf_eq_ok_iff.1 hdevice).1⟩,
      toInt_eq_ok_iff.1 htop, toBinary_eq_ok_iff.1 htimeout, rfl⟩
  · rintro ⟨⟨hfile, hdevice⟩, htop, htimeout, hc⟩
    refine bind_eq_ok_iff.2 ⟨_, entriesOf_eq_ok_iff.2 ⟨hfile, rfl⟩, ?_⟩
    refine bind_eq_ok_iff.2 ⟨_, toInt_eq_ok_iff.2 htop, ?_⟩
    refine bind_eq_ok_iff.2 ⟨_, entriesOf_eq_ok_iff.2 ⟨hdevice, rfl⟩, ?_⟩
    refine bind_eq_ok_iff.2 ⟨_, toBinary_eq_ok_iff.2 htimeout, ?_⟩
    exact congrArg Except.ok hc

/-! ## Faults -/

/-- What makes loading fail, and how; nothing that is checked before it fails. -/
inductive IsFault (s : Sources) : Failure → Prop where
  | file (h : ¬ s.file.HoldsSettings) : IsFault s .notMapping
  | top {e : Failure} (hfile : s.file.HoldsSettings)
      (h : Setting.top.Fails (s.value .top) e) : IsFault s e
  | device {w : Value} (hfile : s.file.HoldsSettings)
      (htop : Setting.top.Counts (s.value .top) w)
      (h : ¬ s.deviceValue.HoldsSettings) : IsFault s .notMapping
  | timeout {e : Failure} {w : Value} (hmappings : s.HasMappings)
      (htop : Setting.top.Counts (s.value .top) w)
      (h : Setting.timeout.Fails (s.value .timeout) e) : IsFault s e

theorem toInt_eq_error_iff_fails {v : Value} :
    toInt "top" v = .error e ↔ Setting.top.Fails v e :=
  Iff.trans (Setting.map_eq_error_iff (f := .int)).symm (Setting.convert_eq_error_iff (x := .top))

theorem toBinary_eq_error_iff_fails {v : Value} :
    toBinary "adb timeout" v = .error e ↔ Setting.timeout.Fails v e :=
  Iff.trans (Setting.map_eq_error_iff (f := .float)).symm
    (Setting.convert_eq_error_iff (x := .timeout))

/-- Loading fails as the first check that fails. -/
theorem load_eq_error_iff : load s = .error e ↔ IsFault s e := by
  rw [load_eq]
  constructor
  · intro h
    rcases bind_eq_error_iff.1 h with hbad | ⟨_, hfile, h⟩
    · obtain ⟨hnot, rfl⟩ := entriesOf_eq_error_iff.1 hbad
      exact .file hnot
    obtain ⟨hfile, -⟩ := entriesOf_eq_ok_iff.1 hfile
    rcases bind_eq_error_iff.1 h with hbad | ⟨top, htop, h⟩
    · exact .top hfile (toInt_eq_error_iff_fails.1 hbad)
    rw [toInt_eq_ok_iff] at htop
    rcases bind_eq_error_iff.1 h with hbad | ⟨_, hdevice, h⟩
    · obtain ⟨hnot, rfl⟩ := entriesOf_eq_error_iff.1 hbad
      exact .device hfile ⟨top, htop, rfl⟩ hnot
    obtain ⟨hdevice, -⟩ := entriesOf_eq_ok_iff.1 hdevice
    rcases bind_eq_error_iff.1 h with hbad | ⟨_, _, h⟩
    · exact .timeout ⟨hfile, hdevice⟩ ⟨top, htop, rfl⟩ (toBinary_eq_error_iff_fails.1 hbad)
    · cases h
  · intro h
    have hopen {v : Value} (hv : v.HoldsSettings) : entriesOf v = .ok v.mapped :=
      entriesOf_eq_ok_iff.2 ⟨hv, rfl⟩
    rw [bind_eq_error_iff]
    cases h with
    | file hnot => exact Or.inl (entriesOf_eq_error_iff.2 ⟨hnot, rfl⟩)
    | top hfile hbad =>
      refine Or.inr ⟨_, hopen hfile, ?_⟩
      exact bind_eq_error_iff.2 (Or.inl (toInt_eq_error_iff_fails.2 hbad))
    | device hfile htop hnot =>
      obtain ⟨top, htop, -⟩ := htop
      refine Or.inr ⟨_, hopen hfile, bind_eq_error_iff.2 (Or.inr ⟨_, toInt_eq_ok_iff.2 htop, ?_⟩)⟩
      exact bind_eq_error_iff.2 (Or.inl (entriesOf_eq_error_iff.2 ⟨hnot, rfl⟩))
    | timeout hmappings htop hbad =>
      obtain ⟨top, htop, -⟩ := htop
      refine Or.inr ⟨_, hopen hmappings.file,
        bind_eq_error_iff.2 (Or.inr ⟨_, toInt_eq_ok_iff.2 htop, ?_⟩)⟩
      refine bind_eq_error_iff.2 (Or.inr ⟨_, hopen hmappings.device, ?_⟩)
      exact bind_eq_error_iff.2 (Or.inl (toBinary_eq_error_iff_fails.2 hbad))

/-! ## One setting at a time -/

theorem load_eq_error_iff_of_hasMappings (h : s.HasMappings) :
    load s = .error e ↔
      Setting.top.Fails (s.value .top) e ∨
        (∃ w, Setting.top.Counts (s.value .top) w) ∧
          Setting.timeout.Fails (s.value .timeout) e := by
  rw [load_eq_error_iff]
  constructor
  · rintro (hnot | ⟨_, hbad⟩ | ⟨_, _, hnot⟩ | ⟨_, htop, hbad⟩)
    · exact absurd h.file hnot
    · exact Or.inl hbad
    · exact absurd h.device hnot
    · exact Or.inr ⟨⟨_, htop⟩, hbad⟩
  · rintro (hbad | ⟨⟨w, htop⟩, hbad⟩)
    · exact .top h.file hbad
    · exact .timeout h htop hbad

/-- Beyond the mappings, loading looks at nothing but the value of each setting. -/
theorem load_congr (h : s.HasMappings) (h' : s'.HasMappings)
    (hvalue : ∀ x, s'.value x = s.value x) : load s' = load s := by
  cases hload : load s with
  | ok c =>
    obtain ⟨-, hcounts⟩ := load_eq_ok_iff.1 hload
    refine load_eq_ok_iff.2 ⟨h', fun x => ?_⟩
    rw [hvalue]
    exact hcounts x
  | error e =>
    rw [load_eq_error_iff_of_hasMappings h] at hload
    rwa [load_eq_error_iff_of_hasMappings h', hvalue, hvalue]

/-- The setting that is reported as unfit is the first of the two numbers that is. -/
theorem load_of_isUnfit (h : s.HasMappings) :
    (Setting.top.IsUnfit (s.value .top) →
      load s = .error (if (s.value .top).isShowable then .badNumber "top" (s.value .top)
        else .notShown)) ∧
    ((∃ w, Setting.top.Counts (s.value .top) w) → Setting.timeout.IsUnfit (s.value .timeout) →
      load s = .error (if (s.value .timeout).isShowable
        then .badNumber "adb timeout" (s.value .timeout) else .notShown)) := by
  simp only [load_eq_error_iff_of_hasMappings h]
  exact ⟨fun hbad => Or.inl (Or.inr ⟨hbad, rfl⟩),
    fun htop hbad => Or.inr ⟨htop, Or.inr ⟨hbad, rfl⟩⟩⟩

end Config

open Config in
/-- One source counts for each setting, and the configuration holds what its value counts as.  What
the sources behind that one give does not matter, and what any source gives for one setting, under a
name that no other has there, does not matter to another.  A number that is unfit is reported, the
first of the two if both are. -/
theorem first_source_counts_alone (s : Sources) (h : s.HasMappings) :
    (Function.Injective Setting.argument ∧ Function.Injective Setting.exported ∧
      Function.Injective fun x : Setting => (x.isOfDevice, x.filed)) ∧
    (∀ x, ∃ src, s.Counts x src (s.value x) ∧
      ∀ src' v, s.Counts x src' v → src' = src ∧ v = s.value x) ∧
    (∀ c, load s = .ok c ↔ ∀ x : Setting, x.Counts (s.value x) (c.field x)) ∧
    (∀ e, load s = .error e ↔
      Setting.top.Fails (s.value .top) e ∨
        (∃ w, Setting.top.Counts (s.value .top) w) ∧
          Setting.timeout.Fails (s.value .timeout) e) ∧
    (Setting.top.IsUnfit (s.value .top) →
      load s = .error (if (s.value .top).isShowable then .badNumber "top" (s.value .top)
        else .notShown)) ∧
    ((∃ w, Setting.top.Counts (s.value .top) w) → Setting.timeout.IsUnfit (s.value .timeout) →
      load s = .error (if (s.value .timeout).isShowable
        then .badNumber "adb timeout" (s.value .timeout) else .notShown)) ∧
    (∀ s' : Sources, s'.HasMappings → (∀ x, s.AgreeWhereCounts s' x) → load s' = load s) ∧
    ∀ (s' : Sources) (y : Setting), s'.HasMappings →
      (∀ x, x ≠ y → ∀ src, s'.given? src x = s.given? src x) →
        (∀ c c', load s = .ok c → load s' = .ok c' → ∀ x, x ≠ y → c'.field x = c.field x) ∧
          (y.isNumber = false → ∀ e, load s' = .error e ↔ load s = .error e) := by
  refine ⟨Setting.names_injective, fun x => ?_, fun c => ?_,
    fun e => load_eq_error_iff_of_hasMappings h, (load_of_isUnfit h).1, (load_of_isUnfit h).2,
    fun s' h' hagree => ?_,
    fun s' y h' hgiven => ⟨fun c c' hload hload' x hx => ?_, fun hy e => ?_⟩⟩
  · obtain ⟨src, hcounts⟩ := s.exists_counts x
    exact ⟨src, hcounts, fun src' v hv => hv.unique hcounts⟩
  · rw [load_eq_ok_iff]
    exact and_iff_right h
  · exact load_congr h h' fun x => (hagree x).value_eq
  · have hcounts := (load_eq_ok_iff.1 hload).2 x
    have hcounts' := (load_eq_ok_iff.1 hload').2 x
    rw [Sources.value_congr (hgiven x hx)] at hcounts'
    exact hcounts'.unique hcounts
  · have htop : s'.value .top = s.value .top :=
      Sources.value_congr (hgiven .top (by rintro rfl; cases hy))
    have htimeout : s'.value .timeout = s.value .timeout :=
      Sources.value_congr (hgiven .timeout (by rintro rfl; cases hy))
    rw [load_eq_error_iff_of_hasMappings h, load_eq_error_iff_of_hasMappings h', htop, htimeout]

/-- Sources that give some settings more than once. -/
def crowdedSources (top serial : Value) : Sources where
  arguments := .ofList [("dir", .text "logs"), ("top", .null)]
  environment := .ofList [("BUGREPORT_TOP", "5"), ("ANDROID_SERIAL", "")]
  file := .map [(.text "top", top), (.text "bugreport_dir", .text "elsewhere"),
    (.text "device", .map [(.text "serial", serial), (.text "timeout", .int 5)])]

open Config in
theorem crowded_numbers_shadowed :
    (∃ c, load (crowdedSources (.list []) (.int 7)) = .ok c ∧ c.folder = .text "logs" ∧
      c.top = 5 ∧ c.serial = .text "") ∧
    load (crowdedSources (.text "few") .null) = load (crowdedSources (.list []) (.int 7)) := by
  have hmappings (top serial : Value) : (crowdedSources top serial).HasMappings :=
    ⟨Or.inl ⟨_, rfl⟩, Or.inl ⟨_, rfl⟩⟩
  obtain ⟨-, -, hload, -, -, -, hshadowed, -⟩ :=
    first_source_counts_alone (crowdedSources (.list []) (.int 7)) (hmappings _ _)
  constructor
  · refine ⟨settled (crowdedSources (.list []) (.int 7)) 5 (.finite false (5 * Binary64.one)),
      (hload _).2 fun x => ?_, rfl, rfl, rfl⟩
    cases x with
    | top => exact ⟨5, .text (by decide), rfl⟩
    | timeout => exact ⟨_, .int rfl (by decide +kernel), rfl⟩
    | _ => rfl
  · refine hshadowed _ (hmappings _ _) fun x src v hcounts src' hle => ?_
    -- The environment goes before the file.
    have hbefore (h : src' = .file) (text : String)
        (hx : (crowdedSources (.list []) (.int 7)).given? .environment x = some (.text text)) :
        False := by
      subst h
      exact absurd ((hcounts.first .environment hle).symm.trans hx) nofun
    cases src' with
    | file =>
      cases x with
      | top => exact (hbefore rfl _ rfl).elim
      | serial => exact (hbefore rfl _ rfl).elim
      | _ => rfl
    | _ => rfl

/-- A list with an integer in it that cannot be shown. -/
def unshowableList : Value := .list [.int (Nat.pow 10 4300)]

/-- Sources that give that list for a number. -/
def unshowableSources : Sources := ⟨.empty, .empty, .map [(.text "top", unshowableList)]⟩

open Config in
/-- The list is no integer, and nothing else is wrong, but the setting is not named. -/
theorem unshowable_number_not_named :
    unshowableSources.HasMappings ∧ unshowableSources.Counts .top .file unshowableList ∧
      Setting.top.IsUnfit unshowableList ∧ load unshowableSources = .error .notShown ∧
      ∀ setting value, load unshowableSources ≠ .error (.badNumber setting value) := by
  have hmappings : unshowableSources.HasMappings := ⟨Or.inl ⟨_, rfl⟩, Or.inr rfl⟩
  have hcounts : unshowableSources.Counts .top .file unshowableList :=
    ⟨rfl, fun src hlt => by cases src <;> first | rfl | exact absurd hlt (by decide)⟩
  have hunfit : Setting.top.IsUnfit unshowableList := by
    constructor
    · rintro w ⟨i, hi, -⟩
      cases hi
    · rintro ⟨negative, h⟩
      cases h
  have hload : load unshowableSources = .error .notShown := by
    have hbad := (load_of_isUnfit hmappings).1
    rw [hcounts.value_eq] at hbad
    rw [hbad hunfit, if_neg (by decide +kernel)]
  refine ⟨hmappings, hcounts, hunfit, hload, fun setting value h => ?_⟩
  exact absurd (hload.symm.trans h) nofun

end SectionTimes
