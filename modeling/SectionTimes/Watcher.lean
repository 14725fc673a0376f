import SectionTimes.Collector

/-!
# Watching for bugreports

A watcher reports each archive of a folder when it comes.  Writing one archive causes several
events; for half a second after an archive was reported, further events of it are passed over.
An archive that cannot be read yet is not reported, and its next event is looked at again.
-/

namespace SectionTimes

open Bugreport

/-- What can happen to a file or folder. -/
inductive EventKind where
  | created
  | moved
  | closed
  /-- Something that no archive comes by. -/
  | other
  deriving DecidableEq, Repr

/-- Something that happened in the folder watched. -/
structure Event where
  kind : EventKind
  source : String
  /-- The path to which something was moved. -/
  target : String
  onFolder : Bool
  deriving DecidableEq, Repr

/-- The path of the archive that may have come by an event. -/
def Event.path? (e : Event) : Option String :=
  if e.onFolder then none
  else
    match e.kind with
    | .created => some e.source
    | .closed => some e.source
    | .moved => some e.target
    | .other => none

/-- Something that happens while a watcher watches. -/
inductive Change where
  | write (path : String) (content : List UInt8)
  | makeFolder (path : String)
  /-- A file is removed, or a folder and what it holds. -/
  | remove (path : String)
  | setClock (time : Binary64)
  | event (event : Event)
  deriving DecidableEq, Repr

/-- A watcher in the course of time. -/
structure Watcher where
  folder : String
  files : Files
  /-- The time, in seconds. -/
  clock : Binary64
  /-- When archives were last taken up, by their names. -/
  taken : Table String Binary64
  /-- What was reported: the names of archives and their metrics, the oldest first. -/
  reports : List (String × MetricMap)
  log : Log

/-- Work of a watcher. -/
abbrev Watching := EStateM ReadFailure Watcher

namespace Watcher

/-- A watcher of a folder that has seen nothing. -/
def ofFolder (folder : String) (files : Files) (clock : Binary64) : Watcher :=
  ⟨folder, files, clock, .empty, [], []⟩

/-- For how many seconds an archive is not reported again: one half. -/
def pause : Binary64 := .ofDecimal false 5 (-1)

/-- Does work that only takes notes. -/
def reading {α : Type} (work : Files → Reading α) : Watching α := fun w =>
  match work w.files w.log with
  | .ok x log => .ok x { w with log }
  | .error e log => .error e { w with log }

/-- Takes a note. -/
def note (level : Level) (message : String) : Watching Unit :=
  modify fun w => { w with log := w.log ++ [⟨level, message⟩] }

/-- Reports the metrics of an archive. -/
def deliver (archive : String) (metrics : MetricMap) : Watching Unit :=
  modify fun w => { w with reports := w.reports ++ [(archive, metrics)] }

/-- Remembers that an archive was taken up at a time. -/
def remember (archive : String) (time : Binary64) : Watching Unit :=
  modify fun w => { w with taken := w.taken.put archive time }

/-- Reads an archive and reports it, and gives its metrics; `none`, if it cannot be read. -/
def process (archive : String) : Watching (Option MetricMap) := do
  note .info ("Processing: " ++ archive)
  let folder := (← get).folder
  let found ← tryCatch
    (do return some (← reading fun files => Collector.metrics ⟨folder⟩ files (some archive)))
    fun e =>
      if e.isExpected then do
        note .warning ("Skipping " ++ archive ++ ": " ++ e.message)
        return none
      else throw e
  match found with
  | none => return none
  | some metrics =>
    let reported := MetricMap.ofMetrics metrics
    deliver archive reported
    return some reported

/-- Whether an archive was taken up less than a pause ago. -/
def isPausing (w : Watcher) (archive : String) : Bool :=
  (w.clock - (w.taken.find? archive).getD .zero).less pause

/-- Takes up the archive at a path, if it is one and does not pause. -/
def takeUp (path : String) : Watching Unit := do
  let archive := Path.baseName path
  let w ← get
  if isArchiveName archive && !w.isPausing archive then
    if (← process archive).isSome then remember archive w.clock

/-- Handles an event. -/
def handle (e : Event) : Watching Unit :=
  match e.path? with
  | some path => takeUp path
  | none => pure ()

/-- Goes through a change; a file or folder that cannot be made is not made. -/
def undergo : Change → Watching Unit
  | .write path content =>
    modify fun w => { w with files := (w.files.write path content).1 }
  | .makeFolder path => modify fun w => { w with files := (w.files.makeFolders path).1 }
  | .remove path => modify fun w => { w with files := w.files.remove path }
  | .setClock time => modify fun w => { w with clock := time }
  | .event e => handle e

/-- Goes through changes one after the other. -/
def undergoAll : List Change → Watching Unit
  | [] => pure ()
  | change :: changes => do
    undergo change
    undergoAll changes

/-- Processes archives one after the other, remembering the time at which each was begun. -/
def processAll : List String → Watching Unit
  | [] => pure ()
  | archive :: archives => do
    -- unlike an event, a scan remembers the archive even if it cannot be read
    remember archive (← get).clock
    let _ ← process archive
    processAll archives

/-- Processes the archives that are there already, in ascending order of their names. -/
def processExisting : Watching Unit := do
  let w ← get
  processAll (← MonadExcept.ofExcept (archives w.files w.folder))

end Watcher

end SectionTimes
