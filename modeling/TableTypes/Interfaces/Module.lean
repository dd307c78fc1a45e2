import TableTypes.Interfaces.ColumnType
import TableTypes.Interfaces.Rename

/-!
# The statements of a generated file

A file holds the imports, the enums, the helper types, an interface for each table and last the
interface that lists all tables.
-/

namespace TableTypes

open TypeScript

/-- The name of the interface that lists all tables. -/
def databaseName : String := "DB"

/-- An interface: its name and its properties. -/
structure Interface where
  name : String
  members : Members

namespace Context

/-- The text that the name of a table's interface is made from. -/
def interfaceSource (ctx : Context) (identifier : String) : String :=
  match ctx.options.singularRules with
  | some rules => String.ofList (Naming.singularize rules identifier.toList)
  | none => identifier

/-- The properties for some columns of a table, with what their types need registered. -/
def columnMembers (ctx : Context) (t : Table) (symbols : Symbols) :
    List Column → Members × Symbols
  | [] => ([], symbols)
  | c :: cs =>
    let (type, symbols) := ctx.columnType symbols t c
    let (members, symbols) := ctx.columnMembers t symbols cs
    ({ key := ctx.casedName c.name, value := type, comment := c.comment } :: members, symbols)

/-- The interface of a table, whose types still refer to symbols by id. -/
def tableInterface (ctx : Context) (symbols : Symbols) (t : Table) : Interface × Symbols :=
  let identifier := ctx.tableIdentifier t
  let (name, symbols) :=
    symbols.registerAs (tableSymbolId identifier) (ctx.interfaceSource identifier) .table
  let (members, symbols) := ctx.columnMembers t symbols t.columns
  ({ name, members }, symbols)

/-- The interfaces of some tables, one after the other. -/
def tableInterfaces (ctx : Context) (symbols : Symbols) :
    List Table → List Interface × Symbols
  | [] => ([], symbols)
  | t :: ts =>
    let (interface, symbols) := ctx.tableInterface symbols t
    let (interfaces, symbols) := ctx.tableInterfaces symbols ts
    (interface :: interfaces, symbols)

/-- The properties of the interface that lists all tables, by identifier. -/
def databaseMembers (ctx : Context) (symbols : Symbols) (tables : List Table) : Members :=
  let byIdentifier := tables.foldl
    (fun (d : Dictionary String) t =>
      let identifier := ctx.tableIdentifier t
      match symbols.name? (tableSymbolId identifier) with
      | some name => d.put identifier name
      | none => d)
    []
  byIdentifier.map fun (identifier, name) =>
    { key := identifier, value := .name name true, comment := none }

end Context

/-- Whether a table comes no later than another: by schema, none first, and then by name. -/
def Table.precedes (a b : Table) : Bool :=
  match a.schema, b.schema with
  | none, none => a.name ≤ b.name
  | none, some _ => true
  | some _, none => false
  | some s, some t => if s = t then a.name ≤ b.name else s ≤ t

/-- The clause that imports an export under the display name of its symbol. -/
def importClause (id name : String) (reference : ModuleExport) : ImportClause :=
  let exported := reference.exported.getD id
  { name := exported, local? := if exported = name then none else some name }

/-- The import clauses of the registered exports by module. -/
def importClauses (symbols : Symbols) : Dictionary (List ImportClause) :=
  symbols.entries.foldl
    (fun d e =>
      match e.symbol with
      | .imported reference =>
        d.put reference.path
          ((d.get? reference.path).getD [] ++ [importClause e.id e.name reference])
      | _ => d)
    []

/-- The declarations of the registered enums. -/
def enumDeclarations (symbols : Symbols) : List Declaration :=
  symbols.entries.filterMap fun e =>
    match e.symbol with
    | .enum _ members => some (.enum e.name members)
    | _ => none

/-- The declarations of the registered definitions. -/
def aliasDeclarations (symbols : Symbols) : List Declaration :=
  symbols.entries.filterMap fun e =>
    match e.symbol with
    | .definition d => some (.typeAlias e.name (d.rename symbols))
    | _ => none

/-- Declarations in ascending order of their names. -/
def sortDeclarations (ds : List Declaration) : List Declaration :=
  ds.mergeSort fun a b => a.name ≤ b.name

/-- An interface as a declaration, with display names in place of ids. -/
def Interface.declaration (symbols : Symbols) (i : Interface) : Declaration :=
  .interface i.name (renameProperties symbols [] i.members)

/-- The statements of the file for a database. -/
def moduleStatements (profile : Profile) (options : Options) (db : Database) : List Statement :=
  let ctx : Context := { profile, options, enums := db.enums }
  let tables := db.tables.mergeSort Table.precedes
  let (interfaces, symbols) := ctx.tableInterfaces (.empty .pascal) tables
  let imports := (importClauses symbols).map fun (path, clauses) => Statement.imports path clauses
  let declarations :=
    sortDeclarations (enumDeclarations symbols)
      ++ sortDeclarations (aliasDeclarations symbols)
      ++ sortDeclarations (interfaces.map (Interface.declaration symbols))
      ++ [.interface databaseName (ctx.databaseMembers symbols tables)]
  imports ++ declarations.map .exports

end TableTypes
