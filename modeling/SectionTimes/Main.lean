import SectionTimes.CommandLine.Durations
import SectionTimes.CommandLine.ScenarioRuns

/-!
# The programs

One executable holds both programs and is the one whose name it is called by.  It looks up the
configuration file and the folder of the bugreports, has a program do its work on them, and writes
what that printed and noted.  It starts no other program, so that a bridge to a device is always
missing.
-/

namespace SectionTimes

open CommandLine

/-- The variables of the environment that settings are taken from. -/
def settingVariables : List String :=
  ["BUGREPORT_DIR", "BUGREPORT_OUTPUT", "BUGREPORT_TOP", "ANDROID_SERIAL", "ADB_PATH",
   "ADB_TIMEOUT", "REMOTE_BUGREPORT_DIR"]

/-- The settings of the environment. -/
def readEnvironment : IO (Table String String) := do
  let values ← settingVariables.filterMapM fun name => do
    return (← IO.getEnv name).map fun value => (name, value)
  return .ofList values

/-- Adds a file of the host, if it can be read. -/
def readHostFile (files : Files) (path : String) : IO Files := do
  try
    let content ← IO.FS.readBinFile path
    return (files.write path content.toList).1
  catch _ => return files

/-- Adds a folder of the host and the archives in it, if it can be read. -/
def readHostFolder (files : Files) (folder : String) : IO Files := do
  try
    let entries ← (System.mkFilePath [folder]).readDir
    let names := (entries.toList.map (·.fileName)).filter Bugreport.isArchiveName
    names.foldlM (fun files name => readHostFile files (Path.join folder name))
      (files.makeFolders folder).1
  catch _ => return files

/-- The configuration file that the words of a command line name. -/
def configPath? (r : Rules) (words : List String) : Option String :=
  match r.read words with
  | .ok (.work a) => a.text? "config"
  | _ => none

/-- The folder of the bugreports, by the words of a command line. -/
def folder? (words : List String) (environment : Table String String) (files : Files) :
    Option String :=
  match Durations.rules.read words with
  | .ok (.work a) =>
    match Work.config a environment (.start files [] .zero) with
    | .ok config _ => config.folder.text?
    | .error .. => none
  | _ => none

/-- The time, in seconds. -/
def readClock : IO Binary64 := do
  return .ofDecimal false (← IO.monoMsNow) (-3)

/-- The session in which a program starts. -/
def startSession (files : Files) : IO Session := do
  return .start files [.notStarted "no other program is started"] (← readClock)

/-- Writes what a session printed and noted. -/
def writeOutcome (o : Outcome) (tag : String) : IO Unit := do
  let stamp := (← readClock).toShortest
  for line in o.outputLines do IO.println line
  (← IO.getStdout).flush
  for line in o.errorLines stamp tag do IO.eprintln line

/-- Writes the outcome of a program and gives its exit code. -/
def endProgram (r : Rules) (o : Outcome) (tag : String) : IO UInt32 := do
  if o.exitCode? = some 2 then IO.eprintln r.usage
  writeOutcome o tag
  match o.exitCode? with
  | some code => return code.toUInt32
  | none =>
    IO.eprintln "The program ended on a failure that it has no report for."
    return 1

/-- What changed in a folder of the host since its files were known as `files`. -/
def readChanges (files : Files) (folder : String) : IO (List Change) := do
  let current ← readHostFolder .empty folder
  let names := (current.names folder ++ files.names folder).eraseDups
  return names.flatMap fun name =>
    let path := Path.join folder name
    match current.content? path with
    | some content =>
      if files.content? path = some content then []
      else [.write path content, .event ⟨.closed, path, "", false⟩]
    | none => [.remove path]

/-- Watches a folder without end. -/
partial def watchFolder (w : Durations.Watch) (s : Session) : IO UInt32 := do
  writeOutcome ⟨s, none⟩ Durations.tag
  IO.sleep 1000
  let changes ← readChanges s.link.files w.watcher.folder
  let s :=
    { s with link := { s.link with log := [] }, printed := [], clock := ← readClock }
  match w.pass changes s with
  | .ok w s => watchFolder w s
  | .error stop s => endProgram Durations.rules ⟨s, some stop⟩ Durations.tag

/-- Runs the program that reports durations. -/
def runDurations (words : List String) : IO UInt32 := do
  let environment ← readEnvironment
  let files ← (configPath? Durations.rules words).toList.foldlM readHostFile .empty
  let files ← (folder? words environment files).toList.foldlM readHostFolder files
  match Durations.begin words environment (← startSession files) with
  | .ok none s => endProgram Durations.rules ⟨s, none⟩ Durations.tag
  | .ok (some w) s => watchFolder w s
  | .error stop s => endProgram Durations.rules ⟨s, some stop⟩ Durations.tag

/-- Runs the program that runs scenarios. -/
def runScenarios (words : List String) : IO UInt32 := do
  let environment ← readEnvironment
  let files ← (configPath? ScenarioRuns.rules words).toList.foldlM readHostFile .empty
  let work := ScenarioRuns.run .builtIn words environment
  endProgram ScenarioRuns.rules (work.outcome (← startSession files)) ScenarioRuns.tag

end SectionTimes

/-- Runs the program by whose name the executable is called. -/
def main (words : List String) : IO UInt32 := do
  let name := (← IO.appPath).fileName.getD ""
  if name.startsWith "scenario" then SectionTimes.runScenarios words
  else SectionTimes.runDurations words
