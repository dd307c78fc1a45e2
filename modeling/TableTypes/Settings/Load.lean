import TableTypes.Host.Basic
import TableTypes.Host.Path
import TableTypes.Settings.Layers
import TableTypes.Toml.Document

/-!
# Loading settings

Settings come from a file, or from a file with variables over it.
-/

namespace TableTypes

variable {m : Type → Type} [Monad m] [Host m]

/-- The outcome of a step as an outcome of the whole. -/
def orFail {ε α : Type} (f : ε → Failure) (outcome : Except ε α) : ExceptT Failure m α :=
  match outcome with
  | .ok a => pure a
  | .error e => throw (f e)

/-- A result that should be there. -/
def orThrow {α : Type} (failure : Failure) (result : Option α) : ExceptT Failure m α :=
  match result with
  | some a => pure a
  | none => throw failure

/-- Reads a file. -/
def readFile (path : String) : ExceptT Failure m String := do
  orFail .storage (← Host.readText path)

namespace Settings

/-- The settings in a file. -/
def fromFile (path : String) : ExceptT Failure m Settings := do
  let text ← readFile path
  orThrow (.settings (.badFile path)) ((Toml.read? text).bind (Settings.read? .file))

/-- The name of the file with settings, without its ending. -/
def defaultFile : String := "typegen"

/-- The ending of files with settings. -/
def fileEnding : String := "toml"

/-- The file with settings that a path stands for: the one at the path, or else the one with the
ending behind the path. -/
def findFile (path : String) : m (Option String) := do
  if ← Host.isFile path then
    return if Path.extension? path = some fileEnding then some path else none
  else
    let path := path ++ "." ++ fileEnding
    return if ← Host.isFile path then some path else none

/-- The text of the file with settings. A path that is given must lead to one. -/
def sourceText (path : Option String) : ExceptT SettingsFault m String := do
  match path with
  | some path =>
    match ← findFile path with
    | none => throw .badSources
    | some file =>
      match ← Host.readText file with
      | .ok text => return text
      | .error _ => throw .badSources
  | none =>
    match ← findFile defaultFile with
    | none => return ""
    | some file =>
      match ← Host.readText file with
      | .ok text => return text
      | .error _ => return ""

/-- The settings in a file with the variables over it. -/
def loadLayers (path : Option String) : ExceptT SettingsFault m Settings := do
  let text ← sourceText path
  match Toml.read? text with
  | none => throw .badSources
  | some file =>
    match Settings.ofLayers? file (← Host.environment) with
    | some settings => return settings
    | none => throw .badSources

/-- The settings in a file with the variables over it. -/
def load (path : Option String) : ExceptT Failure m Settings :=
  ExceptT.adapt .settings (loadLayers path)

end Settings

end TableTypes
