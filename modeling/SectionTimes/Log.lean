/-!
# Logs

What a program notes while it works.  Notes are kept also where the work fails.
-/

namespace SectionTimes

/-- How much a note matters. -/
inductive Level where
  | debug
  | info
  | warning
  | error
  deriving DecidableEq, Repr

/-- The word for a level. -/
def Level.name : Level → String
  | .debug => "DEBUG"
  | .info => "INFO"
  | .warning => "WARNING"
  | .error => "ERROR"

/-- One note. -/
structure Note where
  level : Level
  message : String
  deriving DecidableEq, Repr

/-- Notes, the oldest first. -/
abbrev Log := List Note

/-- The level and the message of a note. -/
def Note.text (n : Note) : String := n.level.name ++ " " ++ n.message

/-- The notes that are written unless all are asked for. -/
def Log.withoutDebug (log : Log) : Log := log.filter fun n => n.level ≠ .debug

/-- Work that takes notes and may fail. -/
abbrev Logged (ε : Type) := EStateM ε Log

/-- Takes a note. -/
def Logged.note {ε : Type} (level : Level) (message : String) : Logged ε Unit :=
  modify fun log => log ++ [⟨level, message⟩]

end SectionTimes
