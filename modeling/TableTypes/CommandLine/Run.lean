import TableTypes.CommandLine.Arguments
import TableTypes.Database.Inspection
import TableTypes.Generation

/-!
# Running the program

The settings are loaded, the arguments go over them, and the file is generated or the metadata of
the schema printed.
-/

namespace TableTypes.CommandLine

variable {m : Type → Type} [Monad m] [Host m]

/-- How a run ends: the code it leaves and the text of its error, if there is one. -/
structure Outcome where
  code : UInt32
  error : Option String := none
  deriving DecidableEq, Repr

/-- What the program answers to `--version`. -/
def versionText : String := "typegen 0.1.0\n"

/-- What the program answers to `--help`. -/
def helpText : String :=
  "Generate TypeScript table and enum declarations from SQL schema DDL\n\n" ++
  "Usage: typegen [OPTIONS] [COMMAND]\n\n" ++
  "Commands:\n" ++
  "  generate  Generate the declaration file (default)\n" ++
  "  inspect   Inspect schema (print introspected metadata as JSON)\n"

/-- The message for a failure. A file that is out of date is only named. -/
def errorText : Failure → String
  | .outdated path _ => path ++ " is out of date"
  | failure => failure.message

/-- Does what the arguments ask for. -/
def perform (a : Arguments) : ExceptT Failure m Unit := do
  let s ← Settings.load a.config
  let s ← orFail .settings (a.apply s)
  match a.command with
  | .inspect =>
    let db ← s.introspect
    let db ← orFail id (s.select db)
    Host.print db.describe
  | .generate =>
    let _ ← s.generateChecked

/-- Runs the program with the arguments of the command line. -/
def run (arguments : List String) : m Outcome := do
  match read? arguments with
  | none => return { code := 2, error := some "invalid arguments" }
  | some .help =>
    Host.print helpText
    return { code := 0 }
  | some .version =>
    Host.print versionText
    return { code := 0 }
  | some (.run a) =>
    match ← (perform a).run with
    | .ok () => return { code := 0 }
    | .error failure => return { code := 1, error := some (errorText failure) }

end TableTypes.CommandLine
