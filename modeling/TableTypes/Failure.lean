import TableTypes.Glob.Basic
import TableTypes.Sql.Token
import TableTypes.Text.Escaped

/-!
# Failures

Why no file is generated, and what the user is told.
-/

namespace TableTypes

/-- Why settings cannot be used. -/
inductive SettingsFault where
  | unknownDialect (name : String)
  /-- One of the singular rules is no pattern. -/
  | badRule
  /-- The argument of a flag is not the JSON that it takes. -/
  | badJson (flag : String)
  /-- A file holds no settings. -/
  | badFile (path : String)
  /-- The file or the variables that settings are loaded from hold none. -/
  | badSources
  /-- The section of a manifest holds no settings. -/
  | badSection
  | missingSection
  | missingVariable (name : String)
  deriving DecidableEq, Repr

/-- The message for settings that cannot be used. -/
def SettingsFault.message : SettingsFault → String
  | unknownDialect name =>
    "Unknown dialect '" ++ name ++ "' (expected postgres, mysql or sqlite)"
  | badRule => "Invalid regular expression"
  | badJson flag => "Invalid JSON for --" ++ flag
  | badFile path => "Failed to parse " ++ path
  | badSources => "Failed to load the configuration"
  | badSection => "Invalid [package.metadata.typegen]"
  | missingSection => "Missing [package.metadata.typegen] section in Cargo.toml"
  | missingVariable name => name ++ " not set - are you running from build.rs?"

/-- What an import spec lacks. -/
inductive ImportFault where
  | noName
  | noModule
  | noExport
  deriving DecidableEq, Repr

/-- The message for a part that an import spec lacks. -/
def ImportFault.message : ImportFault → String
  | noName => "empty import name"
  | noModule => "empty module name"
  | noExport => "empty export name"

/-- Why settings do not make sense. -/
inductive ValidationFault where
  | noSchemaFile
  | missingSchemaFile (path : String)
  | printAndVerify
  | noOutFile
  | badImport (name spec : String) (fault : ImportFault)
  deriving DecidableEq, Repr

/-- The message for settings that do not make sense. -/
def ValidationFault.message : ValidationFault → String
  | noSchemaFile => "schema_file is required"
  | missingSchemaFile path => "Schema file not found: " ++ path
  | printAndVerify => "print and verify cannot be used together"
  | noOutFile => "out_file is required unless print is set"
  | badImport name spec fault =>
    "Invalid custom import " ++ name ++ " = " ++ Text.shown spec ++ ": " ++ fault.message

/-- Why a file cannot be read or written. -/
inductive StorageFault where
  | notFound
  | notDirectory
  | isDirectory
  | notText
  | other
  deriving DecidableEq, Repr

/-- The message for a file that cannot be read or written. -/
def StorageFault.message : StorageFault → String
  | notFound => "No such file or directory (os error 2)"
  | notDirectory => "Not a directory (os error 20)"
  | isDirectory => "Is a directory (os error 21)"
  | notText => "stream did not contain valid UTF-8"
  | other => "the file cannot be used"

/-- Why no file is generated. -/
inductive Failure where
  | schema (cause : Sql.SyntaxError)
  | settings (cause : SettingsFault)
  | invalid (cause : ValidationFault)
  | storage (cause : StorageFault)
  | pattern (cause : Glob.Error)
  /-- The file at a path differs from the one that would be generated. -/
  | outdated (path : String) (diff : String)

/-- The message for a failure. -/
def Failure.message : Failure → String
  | schema cause => "Failed to parse SQL schema: sql parser error: " ++ cause.message
  | settings cause => "Configuration error: " ++ cause.message
  | invalid cause => "Validation error: " ++ cause.message
  | storage cause => "IO error: " ++ cause.message
  | pattern cause => "Invalid table pattern: " ++ cause.message
  | outdated path diff => "Generated output differs from " ++ path ++ ":\n" ++ diff

end TableTypes
