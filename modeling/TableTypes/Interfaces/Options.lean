import TableTypes.Database.Basic
import TableTypes.Dialect.Profile
import TableTypes.Naming.Singular
import TableTypes.Naming.Style
import TableTypes.Text.Lines

/-!
# Options of a generated file

What the user can decide about the interfaces: the case of names, which schemas go without saying,
types of single columns and of data types, and imports for them.
-/

namespace TableTypes

open TypeScript

/-- A column type given by the user. -/
inductive Override where
  /-- Type text, printed as it is. -/
  | text (code : String)
  | type (expression : TypeExpr)
  deriving Repr

/-- The type expression of an override. -/
def Override.expression : Override → TypeExpr
  | text code => .raw code
  | type e => e

/-- The decisions of the user about a generated file. Overrides are keyed by `table.column` or
`schema.table.column`, custom imports by local name, and mapped types by data type. -/
structure Options where
  camelCase : Bool := false
  /-- The schemas whose names are left out, in place of those of the dialect. -/
  defaultSchemas : Option (List String) := none
  overrides : Dictionary Override := []
  /-- Import specs, `module` or `module#Export`, by local name. -/
  customImports : Dictionary String := []
  typeMapping : Dictionary String := []
  /-- The style of enum members if enums are declared as enums and not as unions. -/
  runtimeEnums : Option Naming.IdentifierStyle := none
  /-- The user's singular rules if interface names are made singular. -/
  singularRules : Option (List Naming.SingularRule) := none

/-- The export that an import spec names for a local name: what stands after the last `#`, if that
differs from the local name. -/
def parseImportSpec (localName spec : String) : ModuleExport :=
  match Text.cutLast? '#' spec.toList with
  | some (path, exported) =>
    let exported := String.ofList exported
    { path := String.ofList path
      exported := if exported = localName then none else some exported }
  | none => { path := spec, exported := none }

/-- All that the declarations of a file depend on besides its tables. -/
structure Context where
  profile : Profile
  options : Options
  enums : Enums

namespace Context

/-- The definitions and imports that types may refer to. -/
def library (ctx : Context) : Library :=
  let base := ctx.profile.library
  { base with
    imports := base.imports.override
      (ctx.options.customImports.map fun (name, spec) => (name, parseImportSpec name spec)) }

/-- The schemas whose names are left out. -/
def defaultSchemas (ctx : Context) : List String :=
  ctx.options.defaultSchemas.getD ctx.profile.defaultSchemas

/-- Whether the name of a schema is left out. -/
def isDefaultSchema (ctx : Context) (schema : String) : Bool :=
  ctx.defaultSchemas.contains schema

/-- The name of a table or column in the case that the user wants. -/
def casedName (ctx : Context) (name : String) : String :=
  if ctx.options.camelCase then String.ofList (Naming.camelCase name.toList) else name

/-- A name after its schema unless that goes without saying. -/
def qualify (ctx : Context) (schema : Option String) (name : String) : String :=
  match schema with
  | some schema => if ctx.isDefaultSchema schema then name else schema ++ "." ++ name
  | none => name

/-- The name of a table after its schema unless that goes without saying. -/
def plainIdentifier (ctx : Context) (t : Table) : String :=
  ctx.qualify t.schema t.name

/-- The key of a table in the list of all tables. -/
def tableIdentifier (ctx : Context) (t : Table) : String :=
  ctx.casedName (ctx.plainIdentifier t)

/-- The type that the user has given a column: by the table's name as it is written, or else by its
name after a schema that goes without saying. -/
def findOverride? (ctx : Context) (t : Table) (c : Column) : Option Override :=
  match ctx.options.overrides.get? (ctx.plainIdentifier t ++ "." ++ c.name) with
  | some found => some found
  | none =>
    match t.schema with
    | some schema =>
      if ctx.isDefaultSchema schema then
        ctx.options.overrides.get? (schema ++ "." ++ t.name ++ "." ++ c.name)
      else none
    | none => none

end Context

end TableTypes
