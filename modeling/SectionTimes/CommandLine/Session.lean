import SectionTimes.CommandLine.Options
import SectionTimes.Config.Basic
import SectionTimes.Config.File

/-!
# Sessions

A session is one run of a program: what it finds, what it prints and notes, and how it ends.  A
failure that has to be expected ends it with a report and an exit code; any other failure escapes.
What was printed and noted before stays.
-/

namespace SectionTimes.CommandLine

/-- A failure that a program has no report for. -/
inductive Cause where
  | file (failure : Config.FileFailure)
  | config (failure : Config.Failure)
  | device (failure : Device.Failure)
  | reading (failure : Bugreport.ReadFailure)
  /-- The setting for a folder is no text. -/
  | folderKind
  /-- The setting for a folder is a number that is no number of an open file. -/
  | folderNumber
  deriving Repr

/-- Why a program stops before its work is done. -/
inductive Stop where
  /-- The command line is wrong. -/
  | misused (line : String)
  /-- Something failed, and this is to be reported. -/
  | failed (message : String)
  /-- Something failed, and this was noted. -/
  | noted
  /-- Something failed for which there is no report. -/
  | escaped (cause : Cause)
  deriving Repr

namespace Stop

/-- The stop after a configuration failure: a value that is no number is reported. -/
def ofConfig (e : Config.Failure) : Stop :=
  match e with
  | .badNumber .. => .failed e.message
  | _ => .escaped (.config e)

/-- The stop after a failure to read a report. -/
def ofReading (e : Bugreport.ReadFailure) : Stop :=
  if e.isExpected then .failed e.message else .escaped (.reading e)

end Stop

/-- A run of a program in the course of time. -/
structure Session where
  /-- The files, the bridge to a device, and what was noted. -/
  link : Device.Link
  /-- The time, in seconds. -/
  clock : Binary64
  printed : List String
  watched : Option String
  /-- Whether all notes are written. -/
  verbose : Bool
  /-- How files of settings are read. -/
  readConfig : Config.Reader

/-- Work of a program. -/
abbrev Work := EStateM Stop Session

/-- The session of a program that has just been started. -/
def Session.start (files : Files) (replies : List Device.Reply) (clock : Binary64) : Session :=
  ⟨.ofReplies files replies, clock, [], none, false, Config.yaml⟩

namespace Work

/-- Prints a line. -/
def print (line : String) : Work Unit :=
  modify fun s => { s with printed := s.printed ++ [line] }

/-- Takes a note. -/
def note (level : Level) (message : String) : Work Unit :=
  modify fun s => { s with link := { s.link with log := s.link.log ++ [⟨level, message⟩] } }

/-- Does work that takes notes, and stops if it fails. -/
def noting {ε α : Type} (stop : ε → Stop) (work : Logged ε α) : Work α := fun s =>
  match work s.link.log with
  | .ok x log => .ok x { s with link := { s.link with log } }
  | .error e log => .error (stop e) { s with link := { s.link with log } }

/-- Does work with a device, and tells whether it failed. -/
def attempt {α : Type} (work : Device.Talk α) : Work (Except Device.Failure α) := fun s =>
  match work s.link with
  | .ok x link => .ok (.ok x) { s with link }
  | .error e link => .ok (.error e) { s with link }

/-- Finds the settings, in the file that the command line names and elsewhere. -/
def config (a : Arguments) (environment : Table String String) : Work Config := do
  let s ← get
  let file ← noting (fun e => .escaped (.file e))
    (Config.fileValue s.readConfig s.link.files ((a.text? "config").getD ""))
  match Config.load ⟨a.options, environment, file⟩ with
  | .ok config => return config
  | .error e => throw (Stop.ofConfig e)

end Work

/-- A run of a program that has come to its end. -/
structure Outcome where
  session : Session
  /-- Why it stopped, if its work was not done. -/
  stop : Option Stop

/-- The outcome of work. -/
def Work.outcome (work : Work Unit) (s : Session) : Outcome :=
  match work s with
  | .ok _ s => ⟨s, none⟩
  | .error stop s => ⟨s, some stop⟩

namespace Outcome

/-- The exit code: 0 for work that was done, 1 for a failure, 2 for a wrong command line.  There
is none where a failure escapes. -/
def exitCode? (o : Outcome) : Option Nat :=
  match o.stop with
  | none => some 0
  | some (.misused _) => some 2
  | some (.failed _) => some 1
  | some .noted => some 1
  | some (.escaped _) => none

/-- The lines of the output. -/
def outputLines (o : Outcome) : List String := o.session.printed

/-- The report of a failure. -/
def reportLine (message : String) : String := "Error: " ++ message

/-- The lines of the error output: the notes, and the report of a failure.  `stamp` stands for
the time before each note, and `tag` tells whose note it is. -/
def errorLines (o : Outcome) (stamp tag : String) : List String :=
  let log := o.session.link.log
  let notes := (if o.session.verbose then log else log.withoutDebug).map fun n =>
    stamp ++ " [" ++ tag ++ "] " ++ n.text
  match o.stop with
  | some (.failed message) => notes ++ [reportLine message]
  | some (.misused line) => notes ++ [line]
  | _ => notes

end Outcome

end SectionTimes.CommandLine
