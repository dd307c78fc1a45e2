import TableTypes.Database.Basic
import TableTypes.Database.CatalogType
import TableTypes.Sql.Parser.Statement
import TableTypes.Sql.Reading
import TableTypes.Sql.Render

/-!
# The database that a schema declares

A schema is a list of statements. Tables come from `CREATE TABLE`, enums from `CREATE TYPE`; domains
stand for their base types wherever a column uses them, comments go to their columns, and a view of
one table or view has the columns that it selects. It makes no difference in which order enums,
domains, tables and comments stand.
-/

namespace TableTypes

/-- What the meaning of a statement depends on besides its text: the dialect, the schema of names
without one, and the types of the domains by name in small letters. -/
structure Scope where
  dialect : Dialect
  defaultSchema : Option String
  domains : Dictionary String := []

/-- The data type of columns with labels of their own. -/
def inlineEnumType : String := "enum"

/-- Applies a function to the first element for which it gives a result. -/
def updateFirst? {α : Type} (f : α → Option α) : List α → Option (List α)
  | [] => none
  | a :: rest =>
    match f a with
    | some b => some (b :: rest)
    | none => (updateFirst? f rest).map (a :: ·)

/-- A table with its first column of a name changed, if there is one. -/
def Table.updateColumn? (t : Table) (name : String) (f : Column → Column) : Option Table :=
  (updateFirst? (fun c : Column => if c.name = name then some (f c) else none) t.columns).map
    fun columns => { t with columns }

/-- A table with its first column of a name changed. -/
def Table.updateColumn (t : Table) (name : String) (f : Column → Column) : Table :=
  (t.updateColumn? name f).getD t

namespace Scope

/-- The schema and the name that a name stands for. -/
def qualified (scope : Scope) (text : String) : QualifiedName :=
  .read scope.defaultSchema text

/-! ## Columns and tables -/

/-- The data type that is written in a column, with the base type in place of a domain. -/
def resolve (scope : Scope) (text : String) : CatalogType :=
  let type := CatalogType.read scope.dialect text
  let key :=
    match type.schema with
    | some schema => schema ++ "." ++ type.name
    | none => (scope.qualified type.name).text
  match scope.domains.get? key with
  | some base =>
    let base := CatalogType.read scope.dialect base
    { base with isArray := base.isArray || type.isArray }
  | none => type

/-- A column that is checked against some labels. They count as an enum where there are no other
enums. -/
def checked (scope : Scope) (labels : List String) (c : Column) : Column :=
  if scope.dialect = .sqlite then
    { c with dataType := inlineEnumType, enumValues := some (Enums.sorted labels) }
  else c

/-- Whether the text of an option says that the column counts on by itself. -/
def countsOn (text : String) : Bool :=
  let cs := text.toList
  ["AUTO_INCREMENT", "AUTOINCREMENT", "IDENTITY"].any fun word => Text.contains word.toList cs

/-- A column after one of its options. -/
def applyOption (scope : Scope) (c : Column) : Sql.ColumnOption → Column
  | .notNull => { c with isNullable := false }
  | .null => { c with isNullable := true }
  | .default _ => { c with hasDefault := true }
  | .primaryKey checking =>
    let upper := Unicode.uppercase (Sql.ColumnOption.primaryKey checking).render
    { c with isNullable := false, isAutoIncrementing := c.isAutoIncrementing || countsOn upper }
  | .comment text => { c with comment := some text }
  | other =>
    let text := other.render
    let upper := Unicode.uppercase text
    if countsOn upper then { c with isAutoIncrementing := true }
    else if "GENERATED".isPrefixOf upper || "AS ".isPrefixOf upper then
      { c with hasDefault := true }
    else
      match Sql.readCheck? text with
      | some (name, labels) => if name = c.name then scope.checked labels c else c
      | none => c

/-- The column of a definition before its options count. -/
def plainColumn (scope : Scope) (d : Sql.ColumnDefinition) : Column :=
  match d.type with
  | .enum labels =>
    { name := d.name.text, dataType := inlineEnumType, enumValues := some (labels.map (·.1))
      isNullable := true }
  | type =>
    let type := scope.resolve type.render
    { name := d.name.text, dataType := type.name, dataTypeSchema := type.schema
      isArray := type.isArray, hasDefault := type.impliesDefault, isNullable := true }

/-- The column of a definition. -/
def column (scope : Scope) (d : Sql.ColumnDefinition) : Column :=
  (d.options.map (·.2)).foldl scope.applyOption (scope.plainColumn d)

/-- The name of a column of a key. -/
def keyColumnName (k : Sql.KeyColumn) : String :=
  match k.e with
  | .name [n] => n.text
  | e => e.render

/-- A table after one of its constraints. -/
def applyConstraint (scope : Scope) (t : Table) : Sql.TableConstraint → Table
  | .primaryKey _ _ columns _ =>
    (columns.map keyColumnName).foldl
      (fun t name => t.updateColumn name fun c => { c with isNullable := false }) t
  | other =>
    match Sql.readCheck? other.render with
    | some (name, labels) => t.updateColumn name (scope.checked labels)
    | none => t

/-- The text of a name without quotes. -/
def plainPath (path : Sql.Path) : String :=
  ".".intercalate (path.map (·.text))

/-- Whether a new table is said to be a part of another one. -/
def isPartition (d : Sql.TableDefinition) : Bool :=
  Text.contains " PARTITION OF ".toList (Unicode.uppercase d.render).toList

/-- The table of a definition. -/
def table (scope : Scope) (d : Sql.TableDefinition) : Table :=
  let name := scope.qualified (plainPath d.name)
  d.constraints.foldl scope.applyConstraint
    { schema := name.schema, name := name.name, columns := d.columns.map scope.column
      isPartition := isPartition d }

/-! ## Comments -/

/-- Whether a table is the one of a name. -/
def names (name : QualifiedName) (t : Table) : Bool :=
  t.name = name.name && t.schema = name.schema

/-- Tables after a comment on a column, which is written behind its table and a dot. -/
def applyComment (scope : Scope) (tables : List Table) (target comment : String) : List Table :=
  match Text.cutLast? '.' target.toList with
  | none => tables
  | some (table, column) =>
    let owner := scope.qualified (String.ofList table)
    let column := String.ofList (Text.unquote column)
    let update (t : Table) : Option Table :=
      if names owner t then t.updateColumn? column fun c => { c with comment := some comment }
      else none
    (updateFirst? update tables).getD tables

/-! ## Views -/

/-- A column as a view shows it. -/
def viewColumn (c : Column) : Column :=
  { c with isNullable := true, hasDefault := false, isAutoIncrementing := false }

/-- The columns that an item of a view selects. -/
def itemColumns? (source : Table) (item : List Char) : Option (List Column) := do
  if item = ['*'] then return source.columns.map viewColumn
  let (name, newName) ← Sql.readItem? item
  let c := viewColumn (← source.column? name)
  return [{ c with name := newName.getD c.name }]

/-- The view of a declaration, if its source is among the tables and its items are columns of it. -/
def view? (scope : Scope) (tables : List Table) (p : Sql.Projection) : Option Table := do
  let name := scope.qualified p.name
  let source ← tables.find? (names (scope.qualified p.source))
  let columns ← (Text.splitOn ',' p.items.toList).mapM fun item =>
    itemColumns? source (Unicode.trim item)
  return { schema := name.schema, name := name.name, columns := columns.flatten, isView := true }

/-- Tables with a view behind them if it can be made. -/
def addView (scope : Scope) (tables : List Table) (p : Sql.Projection) : List Table :=
  tables ++ (scope.view? tables p).toList

/-! ## Statements -/

/-- Labels with only the first of those that are alike. -/
def distinctLabels (labels : List String) : List String :=
  labels.foldl (fun found label => if found.contains label then found else found ++ [label]) []

/-- The name and the labels of the enum that a statement declares. -/
def enum? (scope : Scope) : Sql.Statement → Option (String × List String)
  | .type name body =>
    (Sql.readEnum? (Sql.Statement.type name body).render).map fun (name, labels) =>
      ((scope.qualified name).text, distinctLabels labels)
  | _ => none

/-- The name in small letters and the type of the domain that a statement declares. -/
def domain? (scope : Scope) : Sql.Statement → Option (String × String)
  | .domain d =>
    (Sql.readDomain? d.render).map fun (name, base) =>
      (Unicode.lowercase (scope.qualified name).text, base)
  | _ => none

/-- The column and the text of the comment that a statement makes. -/
def comment? : Sql.Statement → Option (String × String)
  | .comment c => Sql.readComment? c.render
  | _ => none

/-- The view that a statement declares, if it is one of some columns of one source. -/
def projection? : Sql.Statement → Option Sql.Projection
  | .view v => Sql.readView? v.render
  | _ => none

/-- The definition of the table that a statement declares. -/
def definition? : Sql.Statement → Option Sql.TableDefinition
  | .table d => some d
  | _ => none

end Scope

namespace Database

/-- The database that some statements declare. -/
def ofStatements (dialect : Dialect) (defaultSchema : Option String)
    (statements : List Sql.Statement) : Database :=
  let names : Scope := { dialect, defaultSchema }
  let scope : Scope := { names with
    domains := Dictionary.ofPairs (statements.filterMap names.domain?) }
  let enums := (statements.filterMap names.enum?).foldl
    (fun (enums : Enums) (key, labels) => enums.set key labels) []
  let tables := (statements.filterMap Scope.definition?).map scope.table
  let tables := (statements.filterMap Scope.comment?).foldl
    (fun tables (target, comment) => scope.applyComment tables target comment) tables
  let tables := (statements.filterMap Scope.projection?).foldl scope.addView tables
  { tables, enums }

/-- Reads the database that the text of a schema declares. -/
def read (dialect : Dialect) (defaultSchema : Option String) (text : String) :
    Except Sql.SyntaxError Database :=
  (Sql.parse dialect text).map (ofStatements dialect defaultSchema)

end Database

end TableTypes
