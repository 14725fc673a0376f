import SectionTimes.Text.Search

/-!
# Paths

Slashes divide a path into its parts.  An empty part and a single dot lead nowhere, two dots lead
to the folder above, and a slash at the beginning leads to the root.  The functions of this module
take paths as texts and look at no file.
-/

namespace SectionTimes.Path

open Text

/-- The parts of a path between its slashes. -/
def parts (path : String) : List String := (splitOn '/' path.toList).map String.ofList

/-- The part behind the last slash. -/
def baseName (path : String) : String :=
  match cutAtLast '/' path.toList with
  | some (_, name) => String.ofList name
  | none => path

/-- A path without the slashes at its end. -/
def dropTrailingSlashes (path : String) : String :=
  String.ofList ((path.toList.reverse.dropWhile (· == '/')).reverse)

/-- What stands before the last slash, without slashes at its end; slashes alone stay. -/
def folderPart (path : String) : String :=
  match cutAtLast '/' path.toList with
  | some (folder, _) =>
    if folder.all (· == '/') then String.ofList (folder ++ ['/'])
    else dropTrailingSlashes (String.ofList folder)
  | none => ""

/-- Whether a path begins at the root. -/
def isAbsolute (path : String) : Bool := path.toList.head? == some '/'

/-- A path taken from a folder. -/
def join (folder path : String) : String :=
  if isAbsolute path then path
  else if folder.isEmpty || folder.toList.getLast? == some '/' then folder ++ path
  else folder ++ "/" ++ path

/-- A path without its extension: the last dot of its last part and what follows, unless only
dots stand before that dot. -/
def dropExtension (path : String) : String :=
  let name := (baseName path).toList
  match cutAtLast '.' name with
  | some (stem, extension) =>
    if stem.all (· == '.') then path
    else String.ofList (path.toList.take (path.length - (extension.length + 1)))
  | none => path

end SectionTimes.Path
