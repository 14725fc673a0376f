import SectionTimes.Proofs.Config.Setting
import SectionTimes.Proofs.Log

/-!
# Which source counts

The value of a setting is that of the first source that gives it, and what the sources behind that
one give, or any source gives for another setting, does not matter to it.
-/

namespace SectionTimes

open Config

/-- A value, if it is not null. -/
def Value.notNull? : Value → Option Value
  | .null => none
  | v => some v

/-- The entries of a value that is a mapping. -/
def Value.mapped : Value → List (Value × Value)
  | .map entries => entries
  | _ => []

/-- A value can be looked through for settings: it is a mapping, or counts as absent. -/
def Value.HoldsSettings (v : Value) : Prop := (∃ entries, v = .map entries) ∨ v.isTruthy = false

theorem Config.entriesOf_eq (v : Value) :
    v.HoldsSettings ∧ entriesOf v = .ok v.mapped ∨
      ¬ v.HoldsSettings ∧ entriesOf v = .error .notMapping := by
  by_cases hmap : ∃ entries, v = .map entries
  · obtain ⟨entries, rfl⟩ := hmap
    exact Or.inl ⟨Or.inl ⟨entries, rfl⟩, rfl⟩
  · have hentries : entriesOf v = if v.isTruthy then .error .notMapping else .ok [] := by
      cases v <;> first | rfl | exact absurd ⟨_, rfl⟩ hmap
    have hmapped : v.mapped = [] := by
      cases v <;> first | rfl | exact absurd ⟨_, rfl⟩ hmap
    cases htruthy : v.isTruthy with
    | true =>
      have hnot : ¬v.HoldsSettings := by simp [Value.HoldsSettings, hmap, htruthy]
      exact Or.inr ⟨hnot, by simp [hentries, htruthy]⟩
    | false => exact Or.inl ⟨Or.inr htruthy, by simp [hentries, htruthy, hmapped]⟩

theorem Config.entriesOf_eq_ok_iff {v : Value} {entries : List (Value × Value)} :
    entriesOf v = .ok entries ↔ v.HoldsSettings ∧ v.mapped = entries := by
  rcases entriesOf_eq v with ⟨h, hentries⟩ | ⟨h, hentries⟩ <;> simp [hentries, h]

theorem Config.entriesOf_eq_error_iff {v : Value} {e : Failure} :
    entriesOf v = .error e ↔ ¬ v.HoldsSettings ∧ e = .notMapping := by
  rcases entriesOf_eq v with ⟨h, hentries⟩ | ⟨h, hentries⟩ <;> simp [hentries, h, eq_comm]

namespace Sources

/-- What the file has for the device. -/
def deviceValue (s : Sources) : Value := (Value.entry? "device" s.file.mapped).getD .null

/-- The file can be looked through, and so can what it has for the device. -/
structure HasMappings (s : Sources) : Prop where
  file : s.file.HoldsSettings
  device : s.deviceValue.HoldsSettings

/-- What a source gives for a setting. -/
def given? (s : Sources) (src : Source) (x : Setting) : Option Value :=
  match src with
  | .argument => (s.arguments.find? x.argument).bind Value.notNull?
  | .environment => (s.environment.find? x.exported).map .text
  | .file =>
    (Value.entry? x.filed (if x.isOfDevice then s.deviceValue.mapped else s.file.mapped)).bind
      Value.notNull?
  | .default => some x.default

/-- A source counts for a setting: it gives the value, and none before it gives any. -/
structure Counts (s : Sources) (x : Setting) (src : Source) (v : Value) : Prop where
  gives : s.given? src x = some v
  first : ∀ src', src'.rank < src.rank → s.given? src' x = none

/-- The value of a setting. -/
def value (s : Sources) (x : Setting) : Value :=
  (([.argument, .environment, .file].findSome? fun src => s.given? src x).getD x.default)

theorem exists_counts (s : Sources) (x : Setting) : ∃ src, s.Counts x src (s.value x) := by
  have hvalue : s.value x =
      (([.argument, .environment, .file].findSome? fun src => s.given? src x).getD x.default) := rfl
  simp only [List.findSome?_cons, List.findSome?_nil] at hvalue
  cases hargument : s.given? .argument x with
  | some v =>
    simp only [hargument] at hvalue
    exact ⟨.argument, hvalue ▸ hargument, fun src' hlt => absurd hlt (Nat.not_lt_zero _)⟩
  | none =>
    cases henvironment : s.given? .environment x with
    | some v =>
      simp only [hargument, henvironment] at hvalue
      refine ⟨.environment, hvalue ▸ henvironment, fun src' hlt => ?_⟩
      cases src' <;> simp_all [Source.rank]
    | none =>
      cases hfile : s.given? .file x with
      | some v =>
        simp only [hargument, henvironment, hfile] at hvalue
        refine ⟨.file, hvalue ▸ hfile, fun src' hlt => ?_⟩
        cases src' <;> simp_all [Source.rank]
      | none =>
        simp only [hargument, henvironment, hfile] at hvalue
        refine ⟨.default, hvalue ▸ rfl, fun src' hlt => ?_⟩
        cases src' <;> simp_all [Source.rank]

theorem rank_injective : Function.Injective Source.rank := by
  intro src src' h
  revert h
  cases src <;> cases src' <;> decide

/-- One source counts, and it has one value. -/
theorem Counts.unique {s : Sources} {x : Setting} {src src' : Source} {v v' : Value}
    (h : s.Counts x src v) (h' : s.Counts x src' v') : src = src' ∧ v = v' := by
  have hsame : src = src' := by
    rcases Nat.lt_trichotomy src.rank src'.rank with hlt | heq | hlt
    · cases (h'.first src hlt).symm.trans h.gives
    · exact rank_injective heq
    · cases (h.first src' hlt).symm.trans h'.gives
  subst hsame
  exact ⟨rfl, Option.some.inj (h.gives.symm.trans h'.gives)⟩

theorem Counts.value_eq {s : Sources} {x : Setting} {src : Source} {v : Value}
    (h : s.Counts x src v) : s.value x = v := by
  obtain ⟨src', h'⟩ := s.exists_counts x
  exact (h'.unique h).2

/-- Sources give the same for a setting, but for what is behind the source that counts. -/
def AgreeWhereCounts (s s' : Sources) (x : Setting) : Prop :=
  ∀ src v, s.Counts x src v → ∀ src', src'.rank ≤ src.rank → s'.given? src' x = s.given? src' x

theorem AgreeWhereCounts.value_eq {s s' : Sources} {x : Setting} (h : s.AgreeWhereCounts s' x) :
    s'.value x = s.value x := by
  obtain ⟨src, hcounts⟩ := s.exists_counts x
  have hsame := h src _ hcounts
  have hcounts' : s'.Counts x src (s.value x) :=
    ⟨(hsame src le_rfl).trans hcounts.gives,
      fun src' hlt => (hsame src' hlt.le).trans (hcounts.first src' hlt)⟩
  exact hcounts'.value_eq

theorem value_congr {s s' : Sources} {x : Setting} (h : ∀ src, s'.given? src x = s.given? src x) :
    s'.value x = s.value x := by
  simp only [value, h]

end Sources

namespace Config

variable {s s' : Sources}

theorem pick_eq_getD (argument exported : String) (filed : Option Value) (default : Value) :
    pick s argument exported filed default =
      (((s.arguments.find? argument).bind Value.notNull?).or
        (((s.environment.find? exported).map .text).or (filed.bind Value.notNull?))).getD
          default := by
  unfold pick
  rcases s.arguments.find? argument with _ | (_ | _)
  -- Neither an argument that is absent nor one that is null is looked at again.
  iterate 2
    rcases s.environment.find? exported with _ | text
    · rcases filed with _ | v
      · rfl
      · cases v <;> rfl
    · rfl
  all_goals rfl

theorem pick_eq (s : Sources) (x : Setting) :
    pick s x.argument x.exported
      (Value.entry? x.filed (if x.isOfDevice then s.deviceValue.mapped else s.file.mapped))
      x.default = s.value x := by
  simp only [pick_eq_getD, Sources.value, List.findSome?_cons, List.findSome?_nil, Sources.given?]
  cases Option.bind (s.arguments.find? x.argument) Value.notNull? with
  | some v => rfl
  | none =>
    cases Option.map Value.text (s.environment.find? x.exported) with
    | some v => rfl
    | none => cases Option.bind _ Value.notNull? <;> rfl

end Config

end SectionTimes
