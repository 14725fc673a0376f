import SectionTimes.Files.Path

/-!
# Names of bugreports

The name of a bugreport archive begins and ends with fixed words.  Within an archive the report
itself is a text entry; the one that is named like the archive is taken wherever it stands, and
otherwise the first that has the name of a report.
-/

namespace SectionTimes.Bugreport

open Text

/-- How the names of archives and of report entries begin. -/
def beginning : List Char := "bugreport".toList

/-- How the names of archives end. -/
def archiveEnding : List Char := ".zip".toList

/-- How the names of report entries end. -/
def entryEnding : List Char := ".txt".toList

/-- Whether a name is that of a bugreport archive. -/
def isArchiveName (name : String) : Bool :=
  beginning.isPrefixOf name.toList && archiveEnding.isSuffixOf name.toList

/-- Whether a name is that of a report entry. -/
def isEntryName (name : String) : Bool :=
  beginning.isPrefixOf name.toList && entryEnding.isSuffixOf name.toList

/-- The entry that is named like an archive. -/
def ownEntry (archive : String) : String := Path.dropExtension archive ++ String.ofList entryEnding

/-- The entry of an archive that holds the report. -/
def reportEntry? (names : List String) (archive : String) : Option String :=
  if ownEntry archive ∈ names then some (ownEntry archive)
  else names.find? fun n => isEntryName (Path.baseName n)

end SectionTimes.Bugreport
