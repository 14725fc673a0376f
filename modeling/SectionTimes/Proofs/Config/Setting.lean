import SectionTimes.Proofs.Config.Conversion

/-!
# Settings and their sources

Each setting has a name of its own in each source, and the configuration holds for each setting the
conversion of its value.  Only the two numbers are converted.
-/

namespace SectionTimes

namespace Config

/-- The settings. -/
inductive Setting where
  | folder
  | format
  | top
  | serial
  | bridge
  | timeout
  | remoteFolder
  deriving DecidableEq, Repr

/-- Where a setting may be given, the default standing behind all else. -/
inductive Source where
  | argument
  | environment
  | file
  | default
  deriving DecidableEq, Repr

/-- The place of a source among the sources; those of lower rank go before it. -/
def Source.rank : Source → ℕ
  | .argument => 0
  | .environment => 1
  | .file => 2
  | .default => 3

namespace Setting

/-! ## Names -/

/-- The name on the command line. -/
def argument : Setting → String
  | .folder => "dir"
  | .format => "output"
  | .top => "top"
  | .serial => "serial"
  | .bridge => "adb_path"
  | .timeout => "adb_timeout"
  | .remoteFolder => "remote_dir"

/-- The name in the environment. -/
def exported : Setting → String
  | .folder => "BUGREPORT_DIR"
  | .format => "BUGREPORT_OUTPUT"
  | .top => "BUGREPORT_TOP"
  | .serial => "ANDROID_SERIAL"
  | .bridge => "ADB_PATH"
  | .timeout => "ADB_TIMEOUT"
  | .remoteFolder => "REMOTE_BUGREPORT_DIR"

/-- Whether the file has it among the settings of the device. -/
def isOfDevice : Setting → Bool
  | .folder => false
  | .format => false
  | .top => false
  | .serial => true
  | .bridge => true
  | .timeout => true
  | .remoteFolder => true

/-- The name in the file. -/
def filed : Setting → String
  | .folder => "bugreport_dir"
  | .format => "output"
  | .top => "top"
  | .serial => "serial"
  | .bridge => "adb_path"
  | .timeout => "timeout"
  | .remoteFolder => "bugreport_dir"

def default : Setting → Value
  | .folder => .text "./bugreports"
  | .format => .text "text"
  | .top => .int 10
  | .serial => .null
  | .bridge => .text "adb"
  | .timeout => .float (.ofDecimal false 60 0)
  | .remoteFolder => .text deviceFolder

/-- No two settings share a name. -/
theorem names_injective :
    Function.Injective argument ∧ Function.Injective exported ∧
      Function.Injective fun x : Setting => (x.isOfDevice, x.filed) := by
  refine ⟨fun x y h => ?_, fun x y h => ?_, fun x y h => ?_⟩
  all_goals revert h; cases x <;> cases y <;> decide

/-! ## Conversions -/

/-- What reports of a bad value call the setting; only numbers can be bad. -/
def label : Setting → String
  | .timeout => "adb timeout"
  | x => x.argument

/-- What a configuration holds for a setting. -/
def convert (x : Setting) (v : Value) : Except Failure Value :=
  match x with
  | .top => (toInt x.label v).map .int
  | .timeout => (toBinary x.label v).map .float
  | _ => .ok v

/-- A value of a setting counts as the one that a configuration holds. -/
def Counts : Setting → Value → Value → Prop
  | .top, v, w => ∃ i, CountsAsInt v i ∧ w = .int i
  | .timeout, v, w => ∃ x, CountsAsBinary v x ∧ w = .float x
  | _, v, w => w = v

/-- A value is too large for a setting. -/
def IsTooLarge : Setting → Value → Prop
  | .top, v => IsInfinite v
  | .timeout, v => IsBeyondBinary v
  | _, _ => False

/-- A value is unfit for a setting. -/
def IsUnfit (x : Setting) (v : Value) : Prop := (∀ w, ¬ x.Counts v w) ∧ ¬ x.IsTooLarge v

/-- A value fails a setting, and how. -/
def Fails (x : Setting) (v : Value) (e : Failure) : Prop :=
  x.IsTooLarge v ∧ e = .tooLarge ∨ x.IsUnfit v ∧ e = .ofValue x.label v

/-- Whether the setting is a number. -/
def isNumber : Setting → Bool
  | .top => true
  | .timeout => true
  | _ => false

variable {x : Setting} {v w : Value} {e : Failure}

theorem map_eq_ok_iff {α : Type} {r : Except Failure α} {f : α → Value} :
    r.map f = .ok w ↔ ∃ a, r = .ok a ∧ w = f a := by
  cases r <;> simp [Except.map, eq_comm]

theorem map_eq_error_iff {α : Type} {r : Except Failure α} {f : α → Value} :
    r.map f = .error e ↔ r = .error e := by
  cases r <;> simp [Except.map]

theorem convert_eq_ok_iff : x.convert v = .ok w ↔ x.Counts v w := by
  cases x with
  | top => simp only [convert, Counts, map_eq_ok_iff, toInt_eq_ok_iff]
  | timeout => simp only [convert, Counts, map_eq_ok_iff, toBinary_eq_ok_iff]
  | _ => simp [convert, Counts, eq_comm]

theorem Counts.unique {w' : Value} (h : x.Counts v w) (h' : x.Counts v w') : w = w' :=
  Except.ok.inj ((convert_eq_ok_iff.2 h).symm.trans (convert_eq_ok_iff.2 h'))

theorem convert_eq_error_iff : x.convert v = .error e ↔ x.Fails v e := by
  unfold Fails
  cases x with
  | top =>
    have hcounts : (∀ w, ¬ Counts .top v w) ↔ ∀ i, ¬ CountsAsInt v i :=
      ⟨fun h i hi => h _ ⟨i, hi, rfl⟩, fun h _ ⟨i, hi, _⟩ => h i hi⟩
    rw [convert, map_eq_error_iff, toInt_eq_error_iff, IsUnfit, hcounts]
    rfl
  | timeout =>
    have hcounts : (∀ w, ¬ Counts .timeout v w) ↔ ∀ x, ¬ CountsAsBinary v x :=
      ⟨fun h x hx => h _ ⟨x, hx, rfl⟩, fun h _ ⟨x, hx, _⟩ => h x hx⟩
    rw [convert, map_eq_error_iff, toBinary_eq_error_iff, IsUnfit, hcounts]
    rfl
  | _ => simp [convert, IsTooLarge, IsUnfit, Counts]

/-- Only a number may be too large or unfit. -/
theorem convert_of_isNumber_eq_false (h : x.isNumber = false) : x.convert v = .ok v := by
  cases x <;> first | rfl | cases h

end Setting

/-- What a configuration holds for a setting, as a value. -/
def field (c : Config) : Setting → Value
  | .folder => c.folder
  | .format => c.format
  | .top => .int c.top
  | .serial => c.serial
  | .bridge => c.bridge
  | .timeout => .float c.timeout
  | .remoteFolder => c.remoteFolder

end Config

end SectionTimes
