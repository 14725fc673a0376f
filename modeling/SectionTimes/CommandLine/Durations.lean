import SectionTimes.CommandLine.Session
import SectionTimes.Report.Stats
import SectionTimes.Watcher

/-!
# The program that reports durations

It reports the durations of one bugreport, or, when it watches, those of every bugreport that
there is and of each new one.  Before that it may fetch the newest bugreport of a device.
-/

namespace SectionTimes.CommandLine.Durations

/-- The options of the program. -/
def rules : Rules where
  program := "bugreport-durations"
  options :=
    [⟨"dir", .text⟩, ⟨"archive", .text⟩, ⟨"pull", .switch⟩,
     ⟨"output", .choice (Format.all.map Format.name)⟩, ⟨"stats", .switch⟩, ⟨"top", .integer⟩,
     ⟨"watch", .switch⟩, ⟨"config", .text⟩, ⟨"serial", .text⟩, ⟨"verbose", .switch⟩]
  takesNames := false

/-- The word that marks the notes of the program. -/
def tag : String := "BUGREPORT"

/-- The report of options that exclude each other. -/
def conflictMessage : String := "--watch cannot be combined with --stats or --archive"

/-- Whether options are given that exclude each other. -/
def conflict (a : Arguments) : Bool :=
  a.has "watch" && (a.has "stats" || (a.text? "archive").any fun name => !name.isEmpty)

/-- The format that a setting names. -/
def formatOf (setting : Value) : Work Format :=
  let found := match setting with
    | .text name => Format.ofName? name
    | _ => none
  match found with
  | some format => return format
  | none =>
    if setting.isShowable then throw (.failed ("unknown output format " ++ setting.quoted))
    else throw (.escaped (.config .notShown))

/-- Whether an integer may be the number of an open file. -/
def isFileNumber (i : Int) : Bool := -2147483648 ≤ i && i ≤ 2147483647

/-- The folder that a setting names, for looking through it or for the archive named.  Numbers
stand for open files, none of which is a folder. -/
def folderOf (setting : Value) (archive : Option String) : Work String :=
  match setting.text?, archive with
  | some folder, _ => return folder
  | none, some _ => throw (.escaped .folderKind)
  | none, none =>
    match setting.asInt? with
    | none => throw (.escaped .folderKind)
    | some i =>
      if isFileNumber i then throw (Stop.ofReading (.noFolder setting.plain))
      else throw (.escaped .folderNumber)

/-- The stop after a failure to fetch a bugreport. -/
def stopOfPull (e : Device.Failure) : Stop :=
  match e with
  | .command .. => .failed e.message
  | .noArchives _ => .failed e.message
  | _ => .escaped (.device e)

/-- Fetches the newest bugreport of the device into the folder of the bugreports. -/
def pull (config : Config) : Work Unit := do
  match ← Work.attempt (config.device.pullNewest config.remoteFolder config.folder) with
  | .ok _ => return ()
  | .error e => throw (stopOfPull e)

/-- Reports the durations of the archive named, or of the newest one. -/
def report (a : Arguments) (config : Config) (format : Format) : Work Unit := do
  Work.note .debug (Collector.startMessage config.folder.plain)
  let archive := a.text? "archive"
  let folder ← folderOf config.folder archive
  let files := (← get).link.files
  let metrics ← Work.noting Stop.ofReading (Collector.metrics ⟨folder⟩ files archive)
  Work.note .debug Collector.stopMessage
  if a.has "stats" then
    let stats := Stats.ofMetrics metrics config.top
    Work.print (if format = .json then stats.jsonText else stats.plainText)
  else
    let text := format.render (.ofMetrics metrics)
    if !text.isEmpty then Work.print text

/-! ## Watching -/

/-- A watcher and the format in which it reports. -/
structure Watch where
  watcher : Watcher
  format : Format

namespace Watch

/-- The lines that are printed for an archive. -/
def linesOf (format : Format) (archive : String) (metrics : MetricMap) : List String :=
  ["# " ++ archive, format.render metrics]

/-- A session with what a watcher noted, reported and brought about. -/
def record (format : Format) (s : Session) (w : Watcher) : Session :=
  { s with
    link := { s.link with files := w.files, log := w.log }
    clock := w.clock
    printed := s.printed ++ w.reports.flatMap fun (archive, m) => linesOf format archive m }

/-- Has the watcher do work, and prints what it reports. -/
def run (w : Watch) (work : Watching Unit) : Work Watch := fun s =>
  let watcher :=
    { w.watcher with files := s.link.files, clock := s.clock, log := s.link.log, reports := [] }
  match work watcher with
  | .ok _ watcher => .ok { w with watcher } (record w.format s watcher)
  | .error e watcher => .error (Stop.ofReading e) (record w.format s watcher)

/-- Reports the archives that there are, and begins to watch. -/
def start (setting : Value) (format : Format) : Work Watch := do
  let folder ← folderOf setting none
  let w ← run ⟨.ofFolder folder .empty .zero, format⟩ Watcher.processExisting
  modify fun s => { s with watched := some folder }
  Work.note .info ("Watching " ++ folder ++ " for new bugreports")
  return w

/-- Takes the note with which watching ends. -/
def noteEnd : Work Unit := Work.note .info "Watcher stopped."

/-- Goes through the changes of a while. -/
def pass (w : Watch) (changes : List Change) : Work Watch :=
  tryCatch (w.run (Watcher.undergoAll changes)) fun stop => do
    noteEnd
    throw stop

/-- Stops watching, as it was asked to. -/
def finish : Work Unit := do
  Work.note .info "Shutdown signal received, stopping..."
  noteEnd

end Watch

/-! ## The program -/

/-- Does what a command line asks for, up to the time when only watching is left. -/
def begin (words : List String) (environment : Table String String) : Work (Option Watch) := do
  match rules.read words with
  | .error c => throw (.misused (rules.complaintLine c.message))
  | .ok .help =>
    Work.print rules.usage
    return none
  | .ok (.work a) =>
    modify fun s => { s with verbose := a.has "verbose" }
    if conflict a then throw (.failed conflictMessage)
    let config ← Work.config a environment
    let format ← formatOf config.format
    Work.note .debug ("Config: " ++ config.describe)
    if a.has "pull" then pull config
    if a.has "watch" then return some (← Watch.start config.folder format)
    report a config format
    return none

/-- Watches while there are changes to come. -/
def watch (w : Watch) : List (List Change) → Work Unit
  | [] => Watch.finish
  | changes :: rest => do watch (← w.pass changes) rest

/-- Does what a command line asks for; `changes` happen while it watches. -/
def run (words : List String) (environment : Table String String)
    (changes : List (List Change)) : Work Unit := do
  match ← begin words environment with
  | none => return ()
  | some w => watch w changes

end SectionTimes.CommandLine.Durations
