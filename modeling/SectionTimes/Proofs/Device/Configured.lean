import SectionTimes.Proofs.CommandLine.Options
import SectionTimes.Proofs.Config.Loading
import SectionTimes.Proofs.Device.Opening

/-!
# Devices from a configuration

The settings that are not converted are texts if the file gives texts.  A device reached by way of
such settings is asked whatever is to be done with it, and one reached by way of others is never
asked anything.
-/

namespace SectionTimes

open Config CommandLine

/-- Whatever the command line gives for a setting that is not converted is a text. -/
def Sources.ArgumentsAreTexts (s : Sources) : Prop :=
  ∀ x : Setting, x.isNumber = false →
    ∀ v, s.arguments.find? x.argument = some v → v = .null ∨ ∃ t, v = .text t

/-- Command lines are so, with either program. -/
theorem argumentsAreTexts_of_read {words : List String} {a : Arguments}
    (h : Durations.rules.read words = .ok (.work a) ∨
      ScenarioRuns.rules.read words = .ok (.work a))
    (environment : Table String String) (file : Value) :
    Sources.ArgumentsAreTexts ⟨a.options, environment, file⟩ := by
  intro x hx v hv
  have hrules : ∀ r : Rules, r = Durations.rules ∨ r = ScenarioRuns.rules →
      ∀ o ∈ r.options, o.name = x.argument → o.TakesTexts := by
    rintro r (rfl | rfl)
    all_goals cases x with
      | top => cases hx
      | timeout => cases hx
      | _ => decide
  have hadmits : ∃ r : Rules, (r = Durations.rules ∨ r = ScenarioRuns.rules) ∧
      r.Admits a.options := by
    rcases h with h | h
    · exact ⟨_, Or.inl rfl, admits_of_read h⟩
    · exact ⟨_, Or.inr rfl, admits_of_read h⟩
  obtain ⟨r, hr, hadmits⟩ := hadmits
  obtain ⟨o, ho, hname, hvalue⟩ := hadmits _ _ hv
  exact Or.inr (hvalue.exists_text (hrules r hr o ho hname))

/-- A value fits a setting that is not converted. -/
def Config.Setting.Fits (x : Setting) (v : Value) : Prop :=
  v.IsText ∨ x = .serial ∧ v = .null

namespace Config

variable {s : Sources} {c : Config}

/-- What does not fit a setting has come from the file. -/
theorem fits_or_counts_file (harguments : s.ArgumentsAreTexts) (hload : load s = .ok c)
    {x : Setting} (hx : x.isNumber = false) :
    x.Fits (c.field x) ∨ s.Counts x .file (c.field x) := by
  have hfield : c.field x = s.value x := by
    have hcounts := (load_eq_ok_iff.1 hload).2 x
    exact Except.ok.inj ((Setting.convert_eq_ok_iff.2 hcounts).symm.trans
      (Setting.convert_of_isNumber_eq_false hx))
  obtain ⟨src, hcounts⟩ := s.exists_counts x
  rw [hfield]
  cases src with
  | argument =>
    obtain ⟨v, hv, hvalue⟩ := Option.bind_eq_some_iff.1 hcounts.gives
    rcases harguments x hx v hv with rfl | ⟨t, rfl⟩
    · cases hvalue
    · rw [← Option.some.inj hvalue]
      exact Or.inl (Or.inl rfl)
  | environment =>
    obtain ⟨t, -, hvalue⟩ := Option.map_eq_some_iff.1 hcounts.gives
    rw [← hvalue]
    exact Or.inl (Or.inl rfl)
  | file => exact Or.inr hcounts
  | default =>
    have hvalue : x.default = s.value x := Option.some.inj hcounts.gives
    rw [← hvalue]
    refine Or.inl ?_
    cases x with
    | top => cases hx
    | timeout => cases hx
    | serial => exact Or.inr ⟨rfl, rfl⟩
    | _ => exact Or.inl rfl

/-- A device is asked of a configuration that fits, and never of one with another way to it. -/
theorem isSome_opening?_of_fits (hbridge : Setting.bridge.Fits c.bridge)
    (hserial : Setting.serial.Fits c.serial) : c.device.opening?.isSome = true := by
  rw [Device.isSome_opening?_iff]
  refine ⟨hbridge.resolve_right (fun h => nomatch h.1), fun htruthy => ?_⟩
  rcases hserial with htext | ⟨-, hnull⟩
  · exact htext
  · change c.serial.isTruthy = true at htruthy
    rw [hnull] at htruthy
    cases htruthy

end Config

/-- The settings of a loaded configuration that are not converted fit unless the file gives them.
What is to be done with its device is asked of the bridge, by words behind one opening, if the name
of the bridge is a text and so is the device that is meant, if any; if not, nothing is asked. -/
theorem usable_unless_file_misfits (s : Sources) (c : Config) (harguments : s.ArgumentsAreTexts)
    (hload : load s = .ok c) :
    (∀ x : Setting, x.isNumber = false → x.Fits (c.field x) ∨ s.Counts x .file (c.field x)) ∧
    ((∀ x : Setting, x.isNumber = false → ∀ v, s.Counts x .file v → x.Fits v) →
      (∀ x : Setting, x.isNumber = false → x.Fits (c.field x)) ∧
        c.device.opening?.isSome = true) ∧
    (c.device.opening?.isSome = true ↔
      c.bridge.IsText ∧ (c.serial.isTruthy = true → c.serial.IsText)) ∧
    (∀ (op : Device.Operation) (link : Device.Link), op.IsReady link →
      (endOf ((op.run c.device).run link)).calls =
          link.calls ++ (c.device.opening?.map (· ++ op.words)).toList ∧
        ((∃ link', (op.run c.device).run link = .error .notText link') ↔
          c.device.opening? = none)) ∧
    ∀ link : Device.Link, ¬ c.remoteFolder.IsText → c.remoteFolder.isTruthy = true →
      (c.device.list c.remoteFolder).run link = .error .notText link := by
  refine ⟨fun x hx => fits_or_counts_file harguments hload hx, fun hfile => ?_,
    c.device.isSome_opening?_iff, fun op link h => ?_, fun link hnot htruthy => ?_⟩
  · have hfits : ∀ x : Setting, x.isNumber = false → x.Fits (c.field x) := fun x hx =>
      (fits_or_counts_file harguments hload hx).elim id (hfile x hx _)
    exact ⟨hfits, isSome_opening?_of_fits (hfits .bridge rfl) (hfits .serial rfl)⟩
  · exact ⟨Device.Operation.calls_run h, Device.Operation.run_eq_notText_iff h⟩
  · exact Device.run_list_of_not_isText hnot htruthy _ _

/-- A configuration file in which a device is named, and the command line of a program. -/
def namedSources (serial : Value) : Sources where
  arguments := .ofList [("dir", .text "logs"), ("top", .int 3)]
  environment := .ofList [("ADB_PATH", "bridge")]
  file := .map [(.text "device", .map [(.text "serial", serial)])]

theorem quoted_serial_usable :
    ∃ c, load (namedSources (.text "12345")) = .ok c ∧
      (∀ x : Setting, x.isNumber = false → x.Fits (c.field x)) ∧
      (endOf (((Device.Operation.shell "true").run c.device).run (.ofReplies .empty []))).calls =
        [["bridge", "-s", "12345", "shell", "true"]] := by
  have harguments : (namedSources (.text "12345")).ArgumentsAreTexts := by
    intro x hx v hv
    cases x with
    | top => cases hx
    | timeout => cases hx
    | folder =>
      cases hv
      exact Or.inr ⟨_, rfl⟩
    | _ => cases hv
  obtain ⟨-, husable, -, hcalls, -⟩ := usable_unless_file_misfits _ _ harguments rfl
  refine ⟨_, rfl, (husable fun x hx v hcounts => ?_).1, (hcalls (.shell "true") _ trivial).1⟩
  have hgiven := hcounts.gives
  cases x with
  | top => cases hx
  | timeout => cases hx
  | serial =>
    cases hgiven
    exact Or.inl rfl
  | _ => cases hgiven

/-- Digits that are not between quotes name no device.  They are accepted, but nothing can be asked
of a device by them. -/
theorem plain_serial_unusable :
    ∃ c, load (namedSources (.int 12345)) = .ok c ∧ c.serial = .int 12345 ∧
      ¬ Setting.serial.Fits c.serial ∧
      (c.device.shell "true").run (.ofReplies .empty []) =
        .error .notText (.ofReplies .empty []) := by
  refine ⟨_, rfl, rfl, ?_, rfl⟩
  rintro (h | ⟨-, h⟩)
  · cases h
  · cases h

end SectionTimes
