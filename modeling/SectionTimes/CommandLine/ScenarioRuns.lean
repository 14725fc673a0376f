import SectionTimes.CommandLine.Session
import SectionTimes.Scenario

/-!
# The program that runs scenarios

It runs the scenarios named on its command line one after the other and stops at the first that
fails.  If one of the names is unknown, none is run.
-/

namespace SectionTimes.CommandLine.ScenarioRuns

/-- The options of the program. -/
def rules : Rules where
  program := "scenario_main.py"
  options := [⟨"list", .switch⟩, ⟨"serial", .text⟩, ⟨"config", .text⟩]
  takesNames := true

/-- The word that marks the notes of the program. -/
def tag : String := "SCENARIO"

/-- The complaint about a command line without names. -/
def noNamesMessage : String := "at least one scenario name is required (or --list)"

/-- The report of unknown names. -/
def unknownMessage (names : List String) : String :=
  "unknown scenario(s): " ++ ", ".intercalate names

/-- Looks up scenarios by their names; the error holds all names that are unknown. -/
def choose (known : Scenarios) (names : List String) :
    Except (List String) (List (String × List String)) :=
  let unknown := names.filter fun n => (known.find? n).isNone
  if unknown.isEmpty then .ok (names.filterMap fun n => (known.find? n).map fun c => (n, c))
  else .error unknown

/-- Runs one scenario by its commands, and notes what it prints. -/
def runOne (d : Device) (name : String) (commands : List String) : Work Unit := do
  match ← Work.attempt (Scenarios.run d name commands) with
  | .ok output =>
    let shown := Text.trimString output
    if !shown.isEmpty then Work.note .info (name ++ ": " ++ shown)
  | .error e =>
    match e with
    | .command .. =>
      Work.note .error ("Scenario " ++ name ++ " failed: " ++ e.message)
      throw .noted
    | _ => throw (.escaped (.device e))

/-- Runs scenarios one after the other. -/
def runAll (d : Device) : List (String × List String) → Work Unit
  | [] => pure ()
  | (name, commands) :: rest => do
    runOne d name commands
    runAll d rest

/-- Prints lines. -/
def printAll : List String → Work Unit
  | [] => pure ()
  | line :: lines => do
    Work.print line
    printAll lines

/-- Does what a command line asks for, with the scenarios that are known. -/
def run (known : Scenarios) (words : List String) (environment : Table String String) :
    Work Unit := do
  match rules.read words with
  | .error c => throw (.misused (rules.complaintLine c.message))
  | .ok .help => Work.print rules.usage
  | .ok (.work a) =>
    if a.has "list" then printAll known.names
    else if a.names.isEmpty then throw (.misused (rules.complaintLine noNamesMessage))
    else
      match choose known a.names with
      | .error unknown => throw (.failed (unknownMessage unknown))
      | .ok chosen =>
        let config ← Work.config a environment
        runAll config.device chosen

end SectionTimes.CommandLine.ScenarioRuns
