import TableTypes.Proofs.Database.Views
import TableTypes.Proofs.Interfaces.BoundNames
import TableTypes.Proofs.Interfaces.Renaming

/-!
# The types of views

The columns of a view may be null and are never given a value by the database. So in the file for a
database their types end with null and are not marked as generated, unless the user has given them
another type.
-/

namespace TableTypes

open TypeScript SymbolTable
open TypeScript.TypeExpr (named unionOf)

/-! ## Types that end with null -/

/-- A type is null, or several types of which the last one is null. -/
def TypeScript.TypeExpr.EndsWithNull (e : TypeExpr) : Prop :=
  e = named "null" ∨ ∃ ms, e = .union ms ∧ ms.getLast? = some (named "null")

/-- A type that ends with null is no generic type, and with that not marked as generated. -/
theorem TypeScript.TypeExpr.EndsWithNull.ne_generic {e : TypeExpr} (h : e.EndsWithNull)
    (head : String) (args : List TypeExpr) : e ≠ .generic head args := by
  rintro rfl
  rcases h with h | ⟨ms, h, -⟩ <;> cases h

/-- A union to which null is added last ends with null. -/
theorem endsWithNull_unionOf_concat (es : List TypeExpr) :
    (unionOf (es ++ [named "null"])).EndsWithNull := by
  cases es with
  | nil => exact .inl rfl
  | cons e es =>
    refine .inr ⟨e :: es ++ [named "null"], ?_, List.getLast?_concat⟩
    cases es <;> rfl

/-- A column that may be null and is never given a value by the database has a type that ends with
null. -/
theorem endsWithNull_wrapType {c : Column} (hnull : c.isNullable = true)
    (hdefault : c.hasDefault = false) (hauto : c.isAutoIncrementing = false)
    (alternatives : List TypeExpr) : (Context.wrapType c alternatives).EndsWithNull := by
  simp only [Context.wrapType, hnull, hdefault, hauto, Bool.or_false, if_true, Bool.false_eq_true,
    if_false]
  exact endsWithNull_unionOf_concat _

/-- Display names leave null at its place. -/
theorem endsWithNull_rename {symbols : Symbols} (hnull : symbols.rename? [] "null" = none)
    {e : TypeExpr} (h : e.EndsWithNull) : (e.rename symbols []).EndsWithNull := by
  have hself : (named "null").rename symbols [] = named "null" := by
    rw [TypeExpr.rename, if_neg (by simp), hnull]
    rfl
  rcases h with rfl | ⟨ms, rfl, hlast⟩
  · exact .inl hself
  · refine .inr ⟨ms.map (·.rename symbols []), by rw [TypeExpr.rename, renameAll_eq_map], ?_⟩
    rw [List.getLast?_map, hlast, Option.map_some, hself]

/-! ## The interface of a view -/

/-- A property stands for a column of a view: where the user has given the column no other type, the
type of the property ends with null and is not marked as generated. -/
structure ViewProperty (ctx : Context) (v : Table) (c : Column) (p : Property TypeExpr) : Prop where
  key : p.key = ctx.casedName c.name
  comment : p.comment = c.comment
  value : ctx.findOverride? v c = none →
    p.value.EndsWithNull ∧ ∀ args, p.value ≠ .generic "Generated" args

/-- The file for a database has the interface of a view, with one property for each column in
order. -/
def DeclaresView (profile : Profile) (options : Options) (db : Database) (v : Table) : Prop :=
  ∃ name members, moduleTableName? profile options db v = some name ∧
    .exports (.interface name members) ∈ moduleStatements profile options db ∧
    List.Forall₂ (ViewProperty (moduleContext profile options db) v) v.columns members

/-- No library of a dialect knows null. -/
theorem not_knows_null (dialect : Dialect) : ¬(Profile.ofDialect dialect).library.Knows "null" := by
  cases dialect <;> decide

variable {options : Options} {db : Database} {v : Table}

/-- A view whose columns may be null and are never given values by the database is declared as a
view. -/
theorem declaresView_of_columns (adapter : Dialect) (himports : options.customImports = [])
    (hv : v ∈ db.tables)
    (hcolumns : ∀ c ∈ v.columns,
      c.isNullable = true ∧ c.hasDefault = false ∧ c.isAutoIncrementing = false) :
    DeclaresView (.ofDialect adapter) options db v := by
  obtain ⟨i, hi, hof⟩ := exists_interfaceOf (.ofDialect adapter) options hv
  have hfree : ¬(moduleContext (.ofDialect adapter) options db).library.Knows "null" :=
    library_moduleContext himports _ db ▸ not_knows_null adapter
  have hnull := rename?_of_not_knows (by decide) hfree []
  refine ⟨i.name, _, hof.name, interface_mem_moduleStatements hi, ?_⟩
  rw [renameProperties_eq_map, List.forall₂_map_right_iff]
  refine ((List.forall₂_and_left _ _).mpr ⟨hcolumns, hof.members⟩).imp ?_
  rintro c p ⟨⟨hnullable, hdefault, hauto⟩, hp⟩
  rw [renameProperty_eq]
  refine ⟨hp.key, hp.comment, fun hoverride => ?_⟩
  obtain ⟨symbols, hvalue⟩ := hp.value
  rw [Context.columnType, hoverride] at hvalue
  have htype : p.value.EndsWithNull := hvalue ▸ endsWithNull_wrapType hnullable hdefault hauto _
  exact ⟨endsWithNull_rename hnull htype, (endsWithNull_rename hnull htype).ne_generic _⟩

/-! ## Views of a schema -/

/-- Each column of a view shows a column of a table, through whatever views lie between, and so the
file of any dialect declares the view with columns that may be null and are not marked as generated.
A view that cannot be made with the tables and views before it leaves no trace. -/
theorem views_show_table_columns (dialect : Dialect) (defaultSchema : Option String)
    (statements : List Sql.Statement) :
    let db := Database.ofStatements dialect defaultSchema statements
    (∀ v ∈ db.tables, v.isView = true →
      (∀ c ∈ v.columns, Database.ShowsTableColumn dialect defaultSchema statements c) ∧
      ∀ (adapter : Dialect) (options : Options), options.customImports = [] →
        DeclaresView (.ofDialect adapter) options db v) ∧
    ∀ (before after : List Sql.Statement) (definition : Sql.ViewDefinition),
      statements = before ++ .view definition :: after →
      let scope := ({ dialect, defaultSchema } : Scope).withDomains (before ++ after)
      scope.madeView? (scope.tablesBetween before after) (.view definition) = none →
      db = Database.ofStatements dialect defaultSchema (before ++ after) := by
  intro db
  refine ⟨fun v hv hview => ?_, ?_⟩
  · have hcolumns (c : Column) (hc : c ∈ v.columns) :=
      Database.showsTableColumn_of_view hv hview hc
    refine ⟨hcolumns, fun adapter options himports => ?_⟩
    refine declaresView_of_columns adapter himports hv fun c hc => ?_
    obtain ⟨_, _, _, _, _, _, s, _, hshows⟩ := hcolumns c hc
    exact ⟨hshows.isNullable, hshows.hasDefault, hshows.isAutoIncrementing⟩
  · rintro before after definition rfl
    exact Database.ofStatements_of_madeView?_eq_none

/-- The view with one column of a source, under a name of its own if one is given. -/
def columnView (name column source : String) (newName : Option Sql.Name) : Sql.ViewDefinition :=
  { orAlter := false, orReplace := false, parameters := "", secure := false, materialized := false
    temporary := false, ifNotExists := false, nameFirst := false, name := [{ text := name }]
    columns := [], options := []
    query := .mk [] (.select (.mk [] [.expr (.name [{ text := column }]) newName]
      [.table [{ text := source }] [] []] none [])) [] }

/-- A view of a view of a table, before a view of a table that there is not. -/
theorem views_show_table_columns_of_people :
    let people : Sql.Statement := .table
      { orReplace := false, kind := [], ifNotExists := false, name := [{ text := "people" }]
        columns := [{ name := { text := "nick" }, type := .known "TEXT" [] ""
                      options := [(none, .notNull)] }]
        constraints := [], model := none, clauses := [], query := none }
    let nicks := columnView "nicks" "nick" "people" none
    let shorts := columnView "shorts" "nick" "nicks" (some { text := "short" })
    let statements := [people, .view nicks, .view shorts]
    let db := Database.ofStatements .postgres none (statements ++ [.view (columnView "v" "x" "t" none)])
    let short : Column := { name := "short", dataType := "text", isNullable := true }
    let v : Table := { schema := none, name := "shorts", columns := [short], isView := true }
    v ∈ db.tables ∧
      Database.ShowsTableColumn .postgres none (statements ++ [.view (columnView "v" "x" "t" none)])
        short ∧
      DeclaresView .postgres {} db v ∧ db = Database.ofStatements .postgres none statements := by
  intro people nicks shorts statements db short v
  have hv : v ∈ db.tables := by decide +kernel
  obtain ⟨hviews, hnone⟩ := views_show_table_columns .postgres none
    (statements ++ [.view (columnView "v" "x" "t" none)])
  obtain ⟨hcolumns, hdeclares⟩ := hviews v hv rfl
  refine ⟨hv, hcolumns short (by decide), hdeclares .postgres {} rfl, ?_⟩
  exact hnone statements [] _ rfl (by decide +kernel)

end TableTypes
