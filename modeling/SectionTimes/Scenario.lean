import SectionTimes.Device.Basic

/-!
# Scenarios

A scenario is a list of shell commands under a name; what they print is put together.  One
scenario is there from the start, and no name can be given twice.
-/

namespace SectionTimes

/-- The scenarios, each by the shell commands that it runs. -/
abbrev Scenarios := Table String (List String)

namespace Scenarios

/-- Why a scenario cannot be had or added. -/
inductive Failure where
  /-- The name is given already. -/
  | taken (name : String)
  | unknown (name : String)
  deriving DecidableEq, Repr

/-- The wording of a failure. -/
def Failure.message : Failure → String
  | .taken name => "Scenario already registered: " ++ name
  | .unknown name => "Unknown scenario: " ++ name

/-- The command that opens the media application on the bluetooth source. -/
def openMediaCommand : String :=
  "am start -a android.car.intent.action.MEDIA_TEMPLATE" ++
    " -e android.car.intent.extra.MEDIA_COMPONENT" ++
    " com.android.bluetooth/com.android.bluetooth.avrcpcontroller.BluetoothMediaBrowseService"

/-- The scenarios that are there from the start. -/
def builtIn : Scenarios := Table.ofList [("open-bluetooth-media", [openMediaCommand])]

/-- The names of the scenarios, in ascending order. -/
def names (s : Scenarios) : List String := sortedNames s.keys

/-- Adds a scenario. -/
def register (s : Scenarios) (name : String) (commands : List String) :
    Except Failure Scenarios :=
  if name ∈ s.keys then .error (.taken name) else .ok (s.put name commands)

/-- The commands of a scenario. -/
def get (s : Scenarios) (name : String) : Except Failure (List String) :=
  match s.find? name with
  | some commands => .ok commands
  | none => .error (.unknown name)

/-- Runs shell commands one after the other, and puts together what they print. -/
def runCommands (d : Device) : List String → Device.Talk String
  | [] => return ""
  | command :: commands => do
    let output ← d.shell command
    return output ++ (← runCommands d commands)

/-- Opens the media application on the bluetooth source. -/
def openMedia (d : Device) : Device.Talk String := runCommands d [openMediaCommand]

/-- Runs the scenario of a name by its commands. -/
def run (d : Device) (name : String) (commands : List String) : Device.Talk String := do
  Device.note .info ("Running scenario " ++ name)
  runCommands d commands

end Scenarios

end SectionTimes
