import TableTypes.Failure
import TableTypes.Interfaces.Options

/-!
# Settings

All that the user can decide about a generated file: where the schema is and where the file goes,
which tables it lists, and the options of the interfaces.
-/

namespace TableTypes

/-- The settings of a generated file. -/
structure Settings where
  schemaFile : String := ""
  dialect : Dialect := .postgres
  outFile : String := "./db.d.ts"
  /-- Whether the file is printed and not written. -/
  print : Bool := false
  /-- Whether the file is compared with the one that is there and not written. -/
  verify : Bool := false
  camelCase : Bool := false
  /-- The schemas whose names are left out; none stand for those of the dialect. -/
  defaultSchemas : List String := []
  includePattern : Option String := none
  excludePattern : Option String := none
  partitions : Bool := false
  runtimeEnums : Option Naming.IdentifierStyle := none
  singularize : Bool := false
  singularRules : Dictionary String := []
  typeOnlyImports : Bool := true
  overrides : Dictionary String := []
  customImports : Dictionary String := []
  typeMapping : Dictionary String := []
  logLevel : Option String := none
  deriving DecidableEq, Repr

/-- The dialect of a name in any letter case. -/
def dialectNamed (name : String) : Except SettingsFault Dialect :=
  match Dialect.ofName? name with
  | some dialect => .ok dialect
  | none => .error (.unknownDialect (Unicode.lowercase name))

namespace Settings

/-- The schema that names without one belong to. -/
def schemaOfNames (s : Settings) : Option String :=
  s.defaultSchemas.head?.or s.dialect.defaultSchema

/-- The singular rules, if names are made singular. -/
def rules (s : Settings) : Except SettingsFault (Option (List Naming.SingularRule)) :=
  if s.singularize then
    match Naming.readRules? s.singularRules with
    | some rules => .ok (some rules)
    | none => .error .badRule
  else .ok none

/-- The options of the interfaces. Data types count in small letters. -/
def options (s : Settings) : Except SettingsFault Options :=
  s.rules.map fun singularRules =>
    { camelCase := s.camelCase
      defaultSchemas := if s.defaultSchemas.isEmpty then none else some s.defaultSchemas
      overrides := s.overrides.map fun (key, code) => (key, .text code)
      customImports := s.customImports
      typeMapping := Dictionary.ofPairs
        (s.typeMapping.map fun (type, code) => (Unicode.lowercase type, code))
      runtimeEnums := s.runtimeEnums
      singularRules }

end Settings

/-- Whether a text is blank. -/
def isBlankText (cs : List Char) : Bool :=
  cs.all Unicode.isBlank

/-- What an import spec lacks: it is `module` or `module#Export`, cut at the first `#`, and neither
the local name nor a part of it is blank. -/
def importFault? (name spec : String) : Option ImportFault :=
  if isBlankText name.toList then some .noName
  else
    match Text.cut? '#' spec.toList with
    | some (path, exported) =>
      if isBlankText path then some .noModule
      else if isBlankText exported then some .noExport
      else none
    | none => if isBlankText spec.toList then some .noModule else none

/-- Checks an import spec. -/
def checkImport (name spec : String) : Except ValidationFault Unit :=
  match importFault? name spec with
  | some fault => .error (.badImport name spec fault)
  | none => .ok ()

end TableTypes
