import SectionTimes.Collector
import SectionTimes.Device.Basic
import SectionTimes.Number.Numeral
import SectionTimes.Value.Quoted

/-!
# Configuration

Each setting is taken from the command line, or else from the environment, or else from the
configuration file, or else it has a default.  A variable of the environment counts even if it is
empty, and a value of the file unless it is null.  Only the two numbers are converted; every other
setting is taken as it is.
-/

namespace SectionTimes

/-- Where settings come from. -/
structure Sources where
  arguments : Table String Value
  environment : Table String String
  file : Value

/-- The settings. -/
structure Config where
  folder : Value
  format : Value
  /-- The number of slowest sections to list. -/
  top : Int
  /-- Which device is meant. -/
  serial : Value
  /-- The command that leads to the device. -/
  bridge : Value
  /-- After how many seconds that command is given up. -/
  timeout : Binary64
  /-- The folder of the bugreports on the device. -/
  remoteFolder : Value

namespace Config

/-- Why there is no configuration. -/
inductive Failure where
  | badNumber (setting : String) (value : Value)
  /-- A value is no number, and cannot be shown in a report. -/
  | notShown
  | tooLarge
  /-- Something that should hold settings is no mapping. -/
  | notMapping
  deriving Repr

/-- The wording of a failure. -/
def Failure.message : Failure → String
  | .badNumber setting value => "Invalid value for " ++ setting ++ ": " ++ value.quoted
  | .notShown => Value.tooLongMessage
  | .tooLarge => ""
  | .notMapping => ""

/-- The failure of a value that is no number. -/
def Failure.ofValue (setting : String) (value : Value) : Failure :=
  if value.isShowable then .badNumber setting value else .notShown

/-- The value of a setting, by its names on the command line and in the environment, its value in
the file and its default. -/
def pick (s : Sources) (argument exported : String) (filed : Option Value) (default : Value) :
    Value :=
  match s.arguments.find? argument with
  | some .null | none =>
    match s.environment.find? exported with
    | some text => .text text
    | none =>
      match filed with
      | some .null | none => default
      | some value => value
  | some value => value

/-- A value as an integer: a fraction is cut off, and a text is read. -/
def toInt (setting : String) (value : Value) : Except Failure Int :=
  match value with
  | .bool b => .ok b.toNat
  | .int i => .ok i
  | .float (.infinite _) => .error .tooLarge
  | .float x =>
    match x.truncate? with
    | some i => .ok i
    | none => .error (.ofValue setting value)
  | .text s =>
    match Numeral.readInt s.toList with
    | some i => .ok i
    | none => .error (.ofValue setting value)
  | _ => .error (.ofValue setting value)

/-- An integer as a floating-point number. -/
def binaryOfInt (i : Int) : Except Failure Binary64 :=
  (Binary64.ofInt? i).elim (.error .tooLarge) .ok

/-- A value as a floating-point number; a text is read. -/
def toBinary (setting : String) (value : Value) : Except Failure Binary64 :=
  match value with
  | .bool b => binaryOfInt b.toNat
  | .int i => binaryOfInt i
  | .float x => .ok x
  | .text s =>
    match Numeral.readBinary s.toList with
    | some x => .ok x
    | none => .error (.ofValue setting value)
  | _ => .error (.ofValue setting value)

/-- The entries of a mapping; whatever counts as absent has none. -/
def entriesOf : Value → Except Failure (List (Value × Value))
  | .map entries => .ok entries
  | v => if v.isTruthy then .error .notMapping else .ok []

/-- The settings that the sources give. -/
def load (s : Sources) : Except Failure Config := do
  let entries ← entriesOf s.file
  let folder := pick s "dir" "BUGREPORT_DIR" (Value.entry? "bugreport_dir" entries)
    (.text "./bugreports")
  let format := pick s "output" "BUGREPORT_OUTPUT" (Value.entry? "output" entries) (.text "text")
  let top ← toInt "top" (pick s "top" "BUGREPORT_TOP" (Value.entry? "top" entries)
    (.int 10))
  let device ← entriesOf ((Value.entry? "device" entries).getD .null)
  let serial := pick s "serial" "ANDROID_SERIAL" (Value.entry? "serial" device) .null
  let bridge := pick s "adb_path" "ADB_PATH" (Value.entry? "adb_path" device) (.text "adb")
  let timeout ← toBinary "adb timeout"
    (pick s "adb_timeout" "ADB_TIMEOUT" (Value.entry? "timeout" device)
      (.float (.ofDecimal false 60 0)))
  let remoteFolder := pick s "remote_dir" "REMOTE_BUGREPORT_DIR"
    (Value.entry? "bugreport_dir" device) (.text deviceFolder)
  return ⟨folder, format, top, serial, bridge, timeout, remoteFolder⟩

/-- The device that the settings lead to. -/
def device (c : Config) : Device := ⟨c.serial, c.bridge, c.timeout⟩

/-- All settings in one line. -/
def describe (c : Config) : String :=
  "Config(bugreport_dir=" ++ c.folder.quoted ++ ", output_format=" ++ c.format.quoted ++
    ", top_n=" ++ Value.intText c.top ++ ", device_serial=" ++ c.serial.quoted ++
    ", adb_path=" ++ c.bridge.quoted ++ ", adb_timeout=" ++ c.timeout.toShortest ++
    ", remote_bugreport_dir=" ++ c.remoteFolder.quoted ++ ")"

end Config

end SectionTimes
