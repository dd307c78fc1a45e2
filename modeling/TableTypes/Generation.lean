import TableTypes.Database.Introspect
import TableTypes.Database.Selection
import TableTypes.Interfaces.Module
import TableTypes.LineDiff.Hunk
import TableTypes.Settings.Load
import TableTypes.TypeScript.Printer

/-!
# Generating the file

The schema is read, the tables that are wanted are selected and their interfaces are made. The text
is then printed, compared with the file that is there, or written. Nothing is written before the
text is complete.
-/

namespace TableTypes

namespace Settings

/-- The database that the text of a schema declares. -/
def introspectText (s : Settings) (sql : String) : Except Failure Database :=
  (Database.read s.dialect s.schemaOfNames sql).mapError .schema

/-- Only the tables that are wanted. -/
def select (s : Settings) (db : Database) : Except Failure Database :=
  ((Selection.ofPatterns s.includePattern s.excludePattern s.partitions).mapError .pattern).map
    db.select

/-- The text of the file for a database. -/
def fileText (s : Settings) (db : Database) : Except Failure String :=
  (s.options.mapError .settings).map fun options =>
    TypeScript.printFile s.typeOnlyImports (moduleStatements (.ofDialect s.dialect) options db)

/-- The text of the file for the text of a schema. -/
def generateText (s : Settings) (sql : String) : Except Failure String := do
  let db ← s.introspectText sql
  let db ← s.select db
  s.fileText db

end Settings

variable {m : Type → Type} [Monad m] [Host m]

/-- Compares a text with the file at a path. A file that is missing counts as empty. -/
def verifyOutput (path output : String) : ExceptT Failure m Unit := do
  let present ←
    match ← Host.readText path with
    | .ok text => pure text
    | .error .notFound => pure ""
    | .error fault => throw (.storage fault)
  match LineDiff.diff? present output with
  | none => return ()
  | some diff => throw (.outdated path diff)

/-- Writes a text to the file at a path and makes the directories for it. -/
def writeOutput (path output : String) : ExceptT Failure m Unit := do
  match Path.parent? path with
  | some directory => orFail .storage (← Host.makeDirectories directory)
  | none => pure ()
  orFail .storage (← Host.writeText path output)

namespace Settings

/-- The database that the schema file declares. -/
def introspect (s : Settings) : ExceptT Failure m Database := do
  let sql ← readFile s.schemaFile
  orFail id (s.introspectText sql)

/-- Prints, compares or writes the text of the file. -/
def deliver (s : Settings) (output : String) : ExceptT Failure m Unit :=
  if s.print then Host.print output
  else if s.verify then verifyOutput s.outFile output
  else writeOutput s.outFile output

/-- Generates the file and gives its text. -/
def generate (s : Settings) : ExceptT Failure m String := do
  let sql ← readFile s.schemaFile
  let output ← orFail id (s.generateText sql)
  s.deliver output
  return output

/-- Whether settings make sense by themselves, apart from the files they name. -/
def checkParts (s : Settings) : Except Failure Unit := do
  if s.print && s.verify then throw (.invalid .printAndVerify)
  if !s.print && s.outFile.isEmpty then throw (.invalid .noOutFile)
  let _ ← (Selection.ofPatterns s.includePattern s.excludePattern s.partitions).mapError .pattern
  s.customImports.forM fun (name, spec) => (checkImport name spec).mapError .invalid
  let _ ← s.rules.mapError .settings

/-- Checks that settings make sense, before the schema is read. -/
def validate (s : Settings) : ExceptT Failure m Unit := do
  if s.schemaFile.isEmpty then throw (.invalid .noSchemaFile)
  if !(← Host.hasEntry s.schemaFile) then throw (.invalid (.missingSchemaFile s.schemaFile))
  orFail id s.checkParts

/-- Checks the settings, generates the file and gives its text. -/
def generateChecked (s : Settings) : ExceptT Failure m String := do
  s.validate
  s.generate

end Settings

end TableTypes
