import SectionTimes.Files.Tree
import SectionTimes.Log
import SectionTimes.Number.Decimal
import SectionTimes.Text.Blank
import SectionTimes.Value.Quoted

/-!
# The link to a device

A device is reached through a command of the host, the bridge, which is given words and answers
with an exit code and two texts.  The link holds the answers that the bridge will give, and what
it was asked and what changed on the host until now.

A run that comes to none of these replies is outside the link: words that no command of the host can
be given, for a null or half a character in them, a time limit that is no number of seconds or too
long to wait for, and an output that is no text.
-/

namespace SectionTimes.Device

/-- How one run of the bridge goes. -/
inductive Reply where
  /-- It ends with an exit code, an output and an error output, perhaps after writing a file. -/
  | exited (code : Int) (output errors : String) (written : Option (List UInt8))
  | timedOut
  /-- It cannot be started. -/
  | notStarted (cause : String)
  deriving DecidableEq, Repr

/-- The reply of a bridge that has nothing to say. -/
def Reply.silent : Reply := .exited 0 "" "" none

/-- The link to a device in the course of time. -/
structure Link where
  /-- The files of the host. -/
  files : Files
  /-- The replies to come; behind them the bridge is silent. -/
  replies : List Reply
  /-- The words that the bridge was given, the oldest first. -/
  calls : List (List String)
  log : Log

/-- A link over which nothing was asked yet. -/
def Link.ofReplies (files : Files) (replies : List Reply) : Link := ⟨files, replies, [], []⟩

/-- Why something could not be done with a device. -/
inductive Failure where
  /-- The bridge failed, with an exit code if it ended at all, and an explanation. -/
  | command (words : List String) (code : Option Int) (errors : String)
  | noArchives (folder : Value)
  /-- A flag name has no package or no flag. -/
  | flagName (name : String)
  /-- There is an obstacle at a path where a folder is to be made or a file to be written. -/
  | host (path : String) (obstacle : Files.Obstacle)
  /-- A path has halves of characters in it. -/
  | halvedPath
  /-- A setting that is no text stands where a text is needed. -/
  | notText
  /-- A setting that is no text is asked for what only texts have. -/
  | noTextOperation
  deriving Repr

/-- The wording for a flag name without a package or without a flag; `shown` is the name in
quotes. -/
def flagNameMessage (shown : String) : String :=
  "Flag name must be \x7bpackage_name\x7d.\x7bflag_name\x7d: " ++ shown

/-- The wording of a failure of the bridge. -/
def commandMessage (words : List String) (code : Option Int) (errors : String) : String :=
  let detail := if (Text.trimString errors).isEmpty then "no output" else Text.trimString errors
  let rest := ": " ++ " ".intercalate words ++ " (" ++ detail ++ ")"
  match code with
  | none => "adb command did not complete" ++ rest
  | some code => s!"adb command failed ({code})" ++ rest

/-- The wording of a failure. -/
def Failure.message : Failure → String
  | .command words code errors => commandMessage words code errors
  | .noArchives place => "No bugreport archives on device in " ++ place.plain
  | .flagName name => flagNameMessage (Text.quote name)
  | .host path obstacle => obstacle.message path
  | .halvedPath => ""
  | .notText => ""
  | .noTextOperation => ""

/-- Work with a device. -/
abbrev Talk := EStateM Failure Link

/-- Takes a note. -/
def note (level : Level) (message : String) : Talk Unit :=
  modify fun link => { link with log := link.log ++ [⟨level, message⟩] }

/-- Gives words to the bridge and waits for its reply.  A file that it writes is named by the last
of the words; the bridge cannot be started if there is an obstacle at it. -/
def ask (words : List String) : Talk Reply := fun link =>
  let reply := link.replies.head?.getD .silent
  let link := { link with replies := link.replies.tail, calls := link.calls ++ [words] }
  match reply with
  | .exited _ _ _ (some content) =>
    match link.files.write (words.getLast?.getD "") content with
    | (files, none) => .ok reply { link with files }
    | (files, some (path, .nullInPath)) => .error (.host path .nullInPath) { link with files }
    | (files, some (path, obstacle)) =>
      .ok (.notStarted (obstacle.message path)) { link with files }
  | _ => .ok reply link

end SectionTimes.Device
