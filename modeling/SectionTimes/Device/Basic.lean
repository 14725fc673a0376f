import SectionTimes.Bugreport.Name
import SectionTimes.Data.Sorted
import SectionTimes.Device.Link
import SectionTimes.Text.LetterCase
import SectionTimes.Text.LineEnd
import SectionTimes.Text.ShellWord

/-!
# Devices

What can be done with a device: run a shell command, list a folder, fetch a file or the newest
bugreport, and read a feature flag.  Whatever the bridge fails at fails as a whole, and nothing
more is asked of it.
-/

namespace SectionTimes

open Text

/-- A device and the way to it. -/
structure Device where
  /-- Which device is meant, if there may be several. -/
  serial : Value
  /-- The command that is the bridge. -/
  bridge : Value
  /-- After how many seconds the bridge is given up. -/
  timeout : Binary64

/-- What a device says about a feature flag. -/
inductive FlagState where
  | on
  | off
  | unset
  deriving DecidableEq, Repr

/-- A part before the last dot and a part behind it, neither of them empty. -/
def splitFlagName? (name : String) : Option (String × String) :=
  match cutAtLast '.' name.toList with
  | some (package, flag) =>
    if package.isEmpty || flag.isEmpty then none
    else some (String.ofList package, String.ofList flag)
  | none => none

namespace Device

/-- The texts among values, if all are texts. -/
def texts? : List Value → Option (List String)
  | [] => some []
  | value :: values => do return (← value.text?) :: (← texts? values)

/-- The words for the bridge: its name, the device if one is meant, and what it is to do. -/
def words (d : Device) (arguments : List String) : List Value :=
  d.bridge :: (if d.serial.isTruthy then [.text "-s", d.serial] else []) ++ arguments.map .text

/-- Has the bridge do something, and gives its output. -/
def run (d : Device) (arguments : List String) : Talk String := do
  match texts? (d.words arguments) with
  | none => throw .notText
  | some words =>
    note .debug ("Running: " ++ " ".intercalate words)
    match ← ask words with
    | .exited code output errors _ =>
      if code = 0 then return output else throw (.command words (some code) errors)
    | .timedOut => throw (.command words none s!"timed out after {d.timeout.toShortest}s")
    | .notStarted cause => throw (.command words none cause)

/-- Runs a shell command on the device, and gives its output. -/
def shell (d : Device) (command : String) : Talk String := d.run ["shell", command]

/-- Fetches a file of the device, making the folder for it. -/
def pull (d : Device) (remote localPath : String) : Talk String := do
  let link ← get
  let folder := Files.pathOf (Files.above (Files.lexically localPath))
  let (files, obstacle) :=
    if folder.isEmpty then (link.files, none) else link.files.makeFolders folder
  set { link with files }
  if let some (path, obstacle) := obstacle then throw (.host path obstacle)
  let _ ← d.run ["pull", remote, localPath]
  note .info ("Pulled " ++ remote ++ " -> " ++ localPath)
  return localPath

/-- The names in a listing: its lines without the blanks around them, less those left empty. -/
def namesIn (listing : String) : List String :=
  ((listingLines listing.toList).map trim).filterMap fun line =>
    if line.isEmpty then none else some (String.ofList line)

/-- A setting as one word of a shell command. -/
def shellWordOf (v : Value) : Talk String :=
  match v.text? with
  | some s => return shellQuote s
  | none => if v.isTruthy then throw .notText else return shellQuote ""

/-- The names in a folder of the device. -/
def list (d : Device) (remote : Value) : Talk (List String) := do
  return namesIn (← d.shell ("ls " ++ (← shellWordOf remote)))

/-- Fetches the newest bugreport in a folder of the device into a folder of the host. -/
def pullNewest (d : Device) (remote folder : Value) : Talk String := do
  let archives := sortedNames ((← d.list remote).filter Bugreport.isArchiveName)
  match archives.getLast? with
  | none => throw (.noArchives remote)
  | some newest =>
    match remote.text?, folder.text? with
    | some remote, some path =>
      if folder matches .halved _ then throw .halvedPath
      d.pull (Path.dropTrailingSlashes remote ++ "/" ++ newest) (Path.join path newest)
    | some _, none => throw .notText
    | none, _ => throw .noTextOperation

/-- What the answer of a device says about a flag. -/
def flagStateOf (answer : String) : FlagState :=
  let word := String.ofList (lower (trim answer.toList))
  if word ∈ ["true", "1", "enabled"] then .on
  else if word ∈ ["false", "0", "disabled"] then .off
  else .unset

/-- Reads a feature flag, whose name holds its package. -/
def flag (d : Device) (name : String) : Talk FlagState := do
  match splitFlagName? name with
  | none => throw (.flagName name)
  | some (package, flag) =>
    return flagStateOf
      (← d.shell ("device_config get " ++ shellQuote package ++ " " ++ shellQuote flag))

end Device

end SectionTimes
