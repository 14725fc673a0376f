import SectionTimes.Files.Tree
import SectionTimes.Log
import SectionTimes.Yaml.Document

/-!
# Configuration files

A configuration file that is not named, or that is not there, holds no settings.  How the bytes of
a file are read as a value is left open here, and what is said of settings and of programs is said
for every reader.  The reader of YAML that the programs are run with takes block and flow form;
`SectionTimes.Yaml` says what it does not take.
-/

namespace SectionTimes.Config

/-- Why a configuration file cannot be read. -/
inductive FileFailure where
  | obstacle (path : String) (obstacle : Files.Obstacle)
  /-- It gives no value. -/
  | content (fault : Yaml.Fault)
  deriving DecidableEq, Repr

/-- The wording of a failure. -/
def FileFailure.message : FileFailure → String
  | .obstacle path o => o.message path
  | .content fault => fault.message

/-- A way to read the bytes of a configuration file as a value. -/
abbrev Reader := List UInt8 → Except Yaml.Fault Value

/-- Reads the bytes of a configuration file as YAML. -/
def yaml : Reader := fun bytes => Yaml.read (.ofBytes bytes)

/-- What a configuration file holds, an empty mapping standing for whatever counts as absent. -/
def fileValue (read : Reader) (files : Files) (path : String) : Logged FileFailure Value := do
  if path.isEmpty then return .map []
  let node ← match files.locate path with
    | .ok location => pure (files.nodeAt location)
    | .error .nothingThere => pure none
    | .error obstacle => throw (.obstacle path obstacle)
  match node with
  | some .folder => throw (.obstacle path .folderThere)
  | some (.file bytes) =>
    let value ← MonadExcept.ofExcept ((read bytes).mapError .content)
    Logged.note .info ("Loaded YAML config from " ++ path)
    return if value.isTruthy then value else .map []
  | none =>
    Logged.note .warning ("Config file " ++ path ++ " not found, using defaults")
    return .map []

end SectionTimes.Config
