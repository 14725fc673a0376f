import SectionTimes.Data.Table
import SectionTimes.Files.Path
import SectionTimes.Text.Quoted

/-!
# A tree of files

Files and folders below a working folder.  A path is followed part by part, and every part but
the last has to lead to a folder.  What lies above the working folder is not known, except that
it consists of folders.
-/

namespace SectionTimes

/-- A place in the tree, by the names that lead to it from the working folder. -/
abbrev Location := List String

/-- What stands at a place. -/
inductive Node where
  | folder
  | file (content : List UInt8)
  deriving DecidableEq, Repr

/-- The files and folders below the working folder. -/
structure Files where
  nodes : Table Location Node

/-- Why there is no way along a path, or nothing can be made there. -/
inductive Files.Obstacle where
  /-- Nothing stands there, and no folder that could hold something. -/
  | nothingThere
  | fileThere
  | folderThere
  /-- The path leads into a file as if it were a folder. -/
  | throughFile
  | tooLong
  /-- The path holds a character that no path can hold. -/
  | nullInPath
  deriving DecidableEq, Repr

/-- The wording of an obstacle at a path. -/
def Files.Obstacle.message (path : String) : Files.Obstacle → String
  | .nothingThere => "[Errno 2] No such file or directory: " ++ Text.quote path
  | .fileThere => "[Errno 17] File exists: " ++ Text.quote path
  | .folderThere => "[Errno 21] Is a directory: " ++ Text.quote path
  | .throughFile => "[Errno 20] Not a directory: " ++ Text.quote path
  | .tooLong => "[Errno 36] File name too long: " ++ Text.quote path
  | .nullInPath => "embedded null byte"

namespace Files

/-- No files. -/
def empty : Files := ⟨Table.empty⟩

instance : Inhabited Files := ⟨empty⟩

/-- The folder at the root. -/
def root : Location := ["/"]

/-- The folder above a place. -/
def above (location : Location) : Location :=
  if location.all (· == "..") then location ++ [".."]
  else if location = root then root
  else location.dropLast

/-- What stands at a place. -/
def nodeAt (files : Files) (location : Location) : Option Node :=
  if location.all (· == "..") || location = root then some .folder
  else files.nodes.find? location

/-- The place that a part of a path leads to from a folder. -/
def enter (folder : Location) (part : String) : Location :=
  if part = "" ∨ part = "." then folder
  else if part = ".." then above folder
  else folder ++ [part]

/-- Where the parts of a path begin, and the parts. -/
def begin (path : String) : Location × List String :=
  if Path.isAbsolute path then (root, (Path.parts path).tail) else ([], Path.parts path)

/-- The greatest number of bytes in a part of a path. -/
def maxPartBytes : Nat := 255

/-- The greatest number of bytes in a path. -/
def maxPathBytes : Nat := 4095

/-- Follows a part of a path from a place. -/
def follow (files : Files) (place : Location) (part : String) : Except Obstacle Location :=
  match files.nodeAt place with
  | none => .error .nothingThere
  | some (.file _) => .error .throughFile
  | some .folder =>
    if maxPartBytes < part.utf8ByteSize then .error .tooLong else .ok (enter place part)

/-- The place that a path names, whether or not something stands there. -/
def locate (files : Files) (path : String) : Except Obstacle Location :=
  if path.isEmpty then .error .nothingThere
  else if path.toList.contains '\x00' then .error .nullInPath
  else if maxPathBytes < path.utf8ByteSize then .error .tooLong
  else (begin path).2.foldlM files.follow (begin path).1

/-- The place that a path names, if there is a way to it. -/
def locate? (files : Files) (path : String) : Option Location := (files.locate path).toOption

/-- What a path leads to. -/
def find? (files : Files) (path : String) : Option Node := (files.locate? path).bind files.nodeAt

/-- Whether a path leads to a folder. -/
def isFolder (files : Files) (path : String) : Bool := files.find? path = some .folder

/-- The content of the file that a path leads to. -/
def content? (files : Files) (path : String) : Option (List UInt8) :=
  match files.find? path with
  | some (.file content) => some content
  | _ => none

/-- Whether a path leads to a file. -/
def isFile (files : Files) (path : String) : Bool := (files.content? path).isSome

/-- The names of what a folder holds, in no particular order. -/
def names (files : Files) (folder : String) : List String :=
  match files.locate? folder with
  | none => []
  | some location =>
    files.nodes.keys.filterMap fun l => if l.dropLast = location then l.getLast? else none

/-- The place that a path names if two dots always undo the part before them. -/
def lexically (path : String) : Location :=
  let (start, parts) := begin path
  parts.foldl enter start

/-- The path of a place. -/
def pathOf (location : Location) : String := "/".intercalate location

/-! ## Changes -/

/-- What became of files that were to be changed: the files, and the path at which there was an
obstacle, if there was one. -/
abbrev Changed := Files × Option (String × Obstacle)

/-- Makes a folder within a folder, unless it is there. -/
def makeFolder (files : Files) (path : String) : Changed :=
  match files.locate (if path.all (· == '/') then path else Path.dropTrailingSlashes path) with
  | .error obstacle => (files, some (path, obstacle))
  | .ok location =>
    match files.nodeAt location with
    | some .folder => (files, none)
    | some (.file _) => (files, some (path, .fileThere))
    | none => (⟨files.nodes.put location .folder⟩, none)

/-- Makes the folders that a path goes through, from the first that is missing, and the folder
that it names.  What was made stays even if there is an obstacle further on. -/
def makeFoldersWithin (files : Files) (path : String) : (fuel : Nat) → Changed
  | 0 => (files, none)
  | fuel + 1 =>
    let body := if Path.baseName path = "" then Path.folderPart path else path
    let folder := Path.folderPart body
    if folder.isEmpty || Path.baseName body = "" || (files.find? folder).isSome then
      files.makeFolder path
    else
      match files.makeFoldersWithin folder fuel with
      | (files, some (place, obstacle)) =>
        if obstacle = .fileThere then files.makeFolder path else (files, some (place, obstacle))
      | (files, none) => if Path.baseName body = "." then (files, none) else files.makeFolder path

/-- Makes the folder that a path names and those that it goes through. -/
def makeFolders (files : Files) (path : String) : Changed :=
  files.makeFoldersWithin path (path.length + 1)

/-- Writes a file into a folder that is there. -/
def writeFile (files : Files) (path : String) (content : List UInt8) : Changed :=
  match files.locate path with
  | .error obstacle => (files, some (path, obstacle))
  | .ok location =>
    if files.nodeAt location = some .folder then (files, some (path, .folderThere))
    else (⟨files.nodes.put location (.file content)⟩, none)

/-- Writes a file, making the folders that its path goes through. -/
def write (files : Files) (path : String) (content : List UInt8) : Changed :=
  let folder := Path.folderPart path
  let (files, obstacle) := if folder.isEmpty then (files, none) else files.makeFolders folder
  if obstacle.isSome then (files, obstacle) else files.writeFile path content

/-- Removes what a path leads to, and all that it holds. -/
def remove (files : Files) (path : String) : Files :=
  match files.locate? path with
  | none => files
  | some location => ⟨files.nodes.without fun l => location.isPrefixOf l⟩

end Files

end SectionTimes
