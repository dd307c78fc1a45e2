import TableTypes.Settings.Basic

/-!
# Choosing settings one by one

A program that uses the library begins with settings and changes them by one choice after another.
A choice sets a setting, adds a default schema behind the others, or puts a text under a key.
-/

namespace TableTypes

/-- A choice of one setting. -/
inductive Choice where
  | dialect (dialect : Dialect)
  | outFile (path : String)
  | camelCase (enabled : Bool)
  /-- One more schema whose tables are named without it. -/
  | defaultSchema (schema : String)
  | includePattern (pattern : String)
  | excludePattern (pattern : String)
  | partitions (enabled : Bool)
  | runtimeEnums (style : Naming.IdentifierStyle)
  | singularize (enabled : Bool)
  | singularRule (pattern replacement : String)
  | typeOnlyImports (enabled : Bool)
  /-- The type of a column, which is named behind its table. -/
  | overrideColumn (column code : String)
  | customImport (name spec : String)
  | typeMapping (dataType code : String)
  /-- The file that is there is compared and not written. -/
  | verify
  /-- The file is printed and not written. -/
  | print
  deriving DecidableEq, Repr

namespace Settings

/-- Settings changed by a choice. -/
def choose (s : Settings) : Choice → Settings
  | .dialect dialect => { s with dialect }
  | .outFile path => { s with outFile := path }
  | .camelCase enabled => { s with camelCase := enabled }
  | .defaultSchema schema => { s with defaultSchemas := s.defaultSchemas ++ [schema] }
  | .includePattern pattern => { s with includePattern := some pattern }
  | .excludePattern pattern => { s with excludePattern := some pattern }
  | .partitions enabled => { s with partitions := enabled }
  | .runtimeEnums style => { s with runtimeEnums := some style }
  | .singularize enabled => { s with singularize := enabled }
  | .singularRule pattern replacement =>
    { s with singularRules := s.singularRules.put pattern replacement }
  | .typeOnlyImports enabled => { s with typeOnlyImports := enabled }
  | .overrideColumn column code => { s with overrides := s.overrides.put column code }
  | .customImport name spec => { s with customImports := s.customImports.put name spec }
  | .typeMapping dataType code => { s with typeMapping := s.typeMapping.put dataType code }
  | .verify => { s with verify := true }
  | .print => { s with print := true }

/-- Settings changed by choices, one after another. -/
def chooseAll (s : Settings) (choices : List Choice) : Settings :=
  choices.foldl choose s

end Settings

end TableTypes
