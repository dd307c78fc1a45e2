import TableTypes.Generation

/-!
# Settings in a manifest

A package can keep the settings in the section `package.metadata.typegen` of its manifest. Files are
named from the directory of the manifest, and without a name for the generated file it goes to the
directory for build products.
-/

namespace TableTypes.Manifest

variable {m : Type → Type} [Monad m] [Host m]

/-- The variable for the directory of the manifest. -/
def directoryVariable : String := "CARGO_MANIFEST_DIR"

/-- The variable for the directory of build products. -/
def productVariable : String := "OUT_DIR"

/-- The name of the manifest. -/
def fileName : String := "Cargo.toml"

/-- The name of the generated file among the build products. -/
def productName : String := "db.d.ts"

/-- The text of a variable that must be there. -/
def requireVariable (name : String) : ExceptT Failure m String := do
  orThrow (.settings (.missingVariable name)) ((← Host.environment).lookup name)

/-- The section with the settings, if the manifest has one, or `none` if it is no manifest. -/
def section? (manifest : Value) : Option (Option Value) := do
  let fieldOf (name : String) (v : Option Value) : Option (Option Value) :=
    match v with
    | none => some none
    | some v => (Source.fields? .file 1 v).map fun field => field 0 name
  let package ← fieldOf "package" (some manifest)
  fieldOf "typegen" (← fieldOf "metadata" package)

/-- The settings of a section whose files are named from the directory of the manifest. -/
def settingsOf (directory : String) (part : Value) : ExceptT Failure m Settings := do
  let s ← orThrow (.settings .badSection) (Settings.read? .part part)
  let outFile ←
    if (part.get? "out_file").isSome then pure (Path.join directory s.outFile)
    else return { s with
      schemaFile := Path.join directory s.schemaFile
      outFile := Path.join (← requireVariable productVariable) productName }
  return { s with schemaFile := Path.join directory s.schemaFile, outFile }

/-- The line that tells the build to run again when a file changes. -/
def watchLine (path : String) : String :=
  "cargo:rerun-if-changed=" ++ path ++ "\n"

/-- Generates the file that the manifest asks for and gives its text. -/
def generate : ExceptT Failure m String := do
  let directory ← requireVariable directoryVariable
  let path := Path.join directory fileName
  let text ← readFile path
  let part ← orThrow (.settings (.badFile path)) ((Toml.read? text).bind section?)
  let part ← orThrow (.settings .missingSection) part
  let s ← settingsOf directory part
  Host.print (watchLine s.schemaFile ++ watchLine path)
  s.generateChecked

end TableTypes.Manifest
