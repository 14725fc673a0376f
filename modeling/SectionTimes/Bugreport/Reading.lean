import SectionTimes.Bugreport.Name
import SectionTimes.Data.Sorted
import SectionTimes.Files.Tree
import SectionTimes.Log
import SectionTimes.Text.LineEnd
import SectionTimes.Zip.Member

/-!
# Reading bugreports

The archives of a folder, the newest of them, and the lines of the report in one.  The names of
archives hold the time at which they were made, so that the greatest name is the newest.  The
report is text in UTF-8; what is malformed in it is shown as such and takes nothing with it.
-/

namespace SectionTimes.Bugreport

/-- Why a report cannot be read. -/
inductive ReadFailure where
  | noFolder (folder : String)
  | noArchives (folder : String)
  | noArchive (path : String)
  | noEntry (archive : String)
  | corrupt (path : String) (damage : Zip.Damage)
  /-- The archive is given up. -/
  | refused (refusal : Zip.Refusal)
  deriving DecidableEq, Repr

/-- Whether a failure is one that those who collect reports go on after: all are, but for an
archive that is given up. -/
def ReadFailure.isExpected : ReadFailure → Bool
  | .refused _ => false
  | _ => true

/-- The wording of a failure. -/
def ReadFailure.message : ReadFailure → String
  | .noFolder folder => "Bugreport directory not found: " ++ folder
  | .noArchives folder => "No bugreport archives found in " ++ folder
  | .noArchive path => "Bugreport archive not found: " ++ path
  | .noEntry archive => "No bugreport text entry in " ++ archive
  | .corrupt path damage => "Corrupt bugreport archive " ++ path ++ ": " ++ damage.message
  | .refused _ => ""

/-- Work on reports, with notes. -/
abbrev Reading := Logged ReadFailure

/-- The archives of a folder, in ascending order of their names. -/
def archives (files : Files) (folder : String) : Except ReadFailure (List String) :=
  if files.isFolder folder then
    .ok (sortedNames ((files.names folder).filter fun n =>
      isArchiveName n && files.isFile (Path.join folder n)))
  else .error (.noFolder folder)

/-- The newest archive of a folder. -/
def newest (files : Files) (folder : String) : Reading String := do
  let names ← MonadExcept.ofExcept (archives files folder)
  match names.getLast? with
  | none => throw (.noArchives folder)
  | some name =>
    Logged.note .debug s!"Latest bugreport in {folder}: {name} (of {names.length})"
    return name

/-- A failure of the archive at a path. -/
def ofZipFailure (path : String) : Zip.Failure → ReadFailure
  | .damaged damage => .corrupt path damage
  | .refused refusal => .refused refusal

/-- Work on the archive at a path. -/
def ofZip {α : Type} (path : String) : Except Zip.Failure α → Reading α
  | .ok x => pure x
  | .error e => throw (ofZipFailure path e)

/-- The report entry of an archive among the entries named. -/
def chooseEntry (names : List String) (archive : String) : Reading String := do
  match reportEntry? names archive with
  | none => throw (.noEntry archive)
  | some entry =>
    if entry ≠ ownEntry archive then
      Logged.note .debug
        ("Entry " ++ ownEntry archive ++ " missing from " ++ archive ++ ", using " ++ entry)
    return entry

/-- The lines of a report in UTF-8, each ended by a line feed but perhaps the last. -/
def linesOf (content : List UInt8) : List String :=
  (Text.entryLines (Utf8.decode content)).map String.ofList

/-- The lines of the report in an archive. -/
def lines (files : Files) (folder archive : String) : Reading (List String) := do
  let path := Path.join folder archive
  match files.content? path with
  | none => throw (.noArchive path)
  | some bytes =>
    let zip ← ofZip path (Zip.Archive.ofBytes bytes)
    let entry ← chooseEntry zip.names archive
    return linesOf (← ofZip path (zip.read entry))

end SectionTimes.Bugreport
