import TableTypes.Proofs.Database.CatalogNames
import TableTypes.Proofs.Database.ColumnTypes
import TableTypes.Proofs.Dictionary
import TableTypes.Proofs.Interfaces.Agreement

/-!
# SQLite columns are always typed

In SQLite any words make a type, and a column has the affinity of its words. Each affinity is a
scalar of the dialect. Where a column has no affinity it has labels of its own, from its type or from
a check. So whatever an SQLite schema says, no column of its file has the type for unknown data
types.
-/

namespace TableTypes

open TypeScript

/-- A column has a scalar of SQLite as its data type, or it is an enum with labels of its own. -/
def Column.IsTyped (c : Column) : Prop :=
  Profile.sqlite.scalars.has c.dataType = true ∨
    c.dataType = inlineEnumType ∧ c.enumValues.isSome = true

/-- A column with the type and the labels of one that is typed is typed. -/
theorem Column.IsTyped.congr {c c' : Column} (h : c.IsTyped) (htype : c'.dataType = c.dataType)
    (hvalues : c'.enumValues = c.enumValues) : c'.IsTyped := by
  rwa [IsTyped, htype, hvalues]

/-! ## Affinities -/

/-- The data types that are scalars of SQLite, in the order of the profile. -/
theorem keys_scalars_sqlite : Profile.sqlite.scalars.keys =
    ["any", "blob", "boolean", "integer", "numeric", "real", "text"] := by
  decide +kernel

/-- The scalars of SQLite are found by their names in small letters. -/
theorem lowercase_of_has_scalars {dataType : String}
    (h : Profile.sqlite.scalars.has dataType = true) : Unicode.lowercase dataType = dataType := by
  have hkeys : ∀ name ∈ Profile.sqlite.scalars.keys, Unicode.lowercase name = name := by
    decide +kernel
  exact hkeys dataType (Dictionary.mem_keys_iff.mpr h)

/-- Each affinity is a scalar. -/
theorem has_sqliteAffinity (name : String) :
    Profile.sqlite.scalars.has (CatalogType.sqliteAffinity name) = true := by
  rw [Dictionary.has, ← Dictionary.mem_keys_iff, keys_scalars_sqlite]
  unfold CatalogType.sqliteAffinity
  dsimp only
  split_ifs with hscalar
  · exact List.contains_iff_mem.mp hscalar
  all_goals simp

/-- SQLite has a scalar for each catalog name. -/
theorem has_canonicalName (name : String) :
    Profile.sqlite.scalars.has (CatalogType.canonicalName .sqlite name).1 = true :=
  has_sqliteAffinity name

/-- In SQLite a type is read as a scalar, whatever its words are. -/
theorem has_name_read (text : String) :
    Profile.sqlite.scalars.has (CatalogType.read .sqlite text).name = true := by
  rcases CatalogType.read_cases .sqlite text with ⟨-, name, -, -, hname⟩ | ⟨-, -, hname⟩
  · rw [hname]
    exact has_canonicalName _
  · rw [hname]
    exact has_canonicalName _

namespace Scope

variable {scope : Scope}

/-- A type is read as it is written, or it is that of a domain. -/
theorem exists_name_resolve (text : String) :
    ∃ written, (scope.resolve text).name = (CatalogType.read scope.dialect written).name := by
  unfold resolve
  dsimp only
  split
  · exact ⟨_, rfl⟩
  · exact ⟨text, rfl⟩

/-- A column is typed as it is declared. -/
theorem isTyped_plainColumn (hdialect : scope.dialect = .sqlite) (d : Sql.ColumnDefinition) :
    (scope.plainColumn d).IsTyped := by
  unfold plainColumn
  split
  · exact .inr ⟨rfl, rfl⟩
  · obtain ⟨written, hname⟩ := scope.exists_name_resolve d.type.render
    have hscalar := has_name_read written
    rw [← hdialect, ← hname] at hscalar
    exact .inl hscalar

/-! ## Options, constraints and comments -/

/-- A check gives a column of SQLite labels of its own. -/
theorem isTyped_checked (hdialect : scope.dialect = .sqlite) (labels : List String) (c : Column) :
    (scope.checked labels c).IsTyped := by
  rw [checked, if_pos hdialect]
  exact .inr ⟨rfl, rfl⟩

/-- A column is typed after an option. -/
theorem isTyped_applyOption (hdialect : scope.dialect = .sqlite) {c : Column} (hc : c.IsTyped)
    (option : Sql.ColumnOption) : (scope.applyOption c option).IsTyped := by
  rcases scope.applyOption_keeps_or_checks c option with
    ⟨-, -, htype, hvalues⟩ | ⟨labels, hchecked⟩
  · exact hc.congr htype hvalues
  · rw [hchecked]
    exact isTyped_checked hdialect labels c

/-- A column is typed after its options. -/
theorem isTyped_column (hdialect : scope.dialect = .sqlite) (d : Sql.ColumnDefinition) :
    (scope.column d).IsTyped :=
  List.foldlRecOn (motive := Column.IsTyped) _ scope.applyOption (isTyped_plainColumn hdialect d)
    fun _ hc option _ => isTyped_applyOption hdialect hc option

end Scope

/-- All columns of a table are typed. -/
def Table.AllTyped (t : Table) : Prop :=
  ∀ c ∈ t.columns, c.IsTyped

/-- A change of single columns that leaves them typed leaves a table typed. -/
theorem Table.AllTyped.updateColumn {t : Table} (h : t.AllTyped) {f : Column → Column}
    (hf : ∀ c : Column, c.IsTyped → (f c).IsTyped) (name : String) :
    (t.updateColumn name f).AllTyped := by
  rw [Table.updateColumn_eq]
  intro c' hc'
  have hchange := Scope.forall₂_changeColumn (R := fun c c' => c.IsTyped → c'.IsTyped)
    (fun _ hc => hc) (fun c (_ : c.name = name) => hf c) t.columns
  obtain ⟨c, hc, hkeeps⟩ := exists_of_mem_of_forall₂ hchange.flip hc'
  exact hkeeps (h c hc)

namespace Scope

variable {scope : Scope}

/-- The columns of a table are typed after a constraint. -/
theorem allTyped_applyConstraint (hdialect : scope.dialect = .sqlite) {t : Table} (h : t.AllTyped)
    (constraint : Sql.TableConstraint) : (scope.applyConstraint t constraint).AllTyped := by
  unfold applyConstraint
  split
  · refine List.foldlRecOn (motive := Table.AllTyped) _ _ h fun t ht name _ => ?_
    exact ht.updateColumn (f := fun c => { c with isNullable := false })
      (fun c hc => hc.congr rfl rfl) name
  · split
    · exact h.updateColumn (fun c _ => isTyped_checked hdialect _ c) _
    · exact h

/-- The columns of a table are typed after all its constraints. -/
theorem allTyped_table (hdialect : scope.dialect = .sqlite) (d : Sql.TableDefinition) :
    (scope.table d).AllTyped := by
  refine List.foldlRecOn (motive := Table.AllTyped) d.constraints scope.applyConstraint ?_
    fun t ht constraint _ => allTyped_applyConstraint hdialect ht constraint
  intro c hc
  obtain ⟨definition, -, rfl⟩ := List.mem_map.mp hc
  exact isTyped_column hdialect definition

/-- Comments on columns make no difference to whether they are typed. -/
theorem allTyped_uncommented_iff {t : Table} : (uncommented t).AllTyped ↔ t.AllTyped := by
  constructor
  · intro h c hc
    exact (h _ (List.mem_map_of_mem hc)).congr rfl rfl
  · intro h c' hc'
    obtain ⟨c, hc, rfl⟩ := List.mem_map.mp hc'
    exact (h c hc).congr rfl rfl

/-- The tables of a SQLite schema are typed. -/
theorem allTyped_of_mem_commentedTables (hdialect : scope.dialect = .sqlite)
    {definitions : List Sql.TableDefinition} {comments : List (String × String)} {t : Table}
    (ht : t ∈ scope.commentedTables definitions comments) : t.AllTyped := by
  have hmem := List.mem_map_of_mem (f := uncommented) ht
  rw [uncommented_commentedTables] at hmem
  obtain ⟨d, -, hsame⟩ := List.mem_map.mp hmem
  rw [← allTyped_uncommented_iff, ← hsame, allTyped_uncommented_iff]
  exact allTyped_table hdialect d

end Scope

/-- All columns of the tables and views in an SQLite database are typed. -/
theorem Database.allTyped_of_mem_tables {defaultSchema : Option String}
    {statements : List Sql.Statement} {t : Table}
    (ht : t ∈ (ofStatements .sqlite defaultSchema statements).tables) : t.AllTyped := by
  let scope := ({ dialect := .sqlite, defaultSchema } : Scope).withDomains statements
  have hbase {b : Table} (hb : b ∈ scope.commentedTables (statements.filterMap Scope.definition?)
      (statements.filterMap Scope.comment?)) : b.AllTyped :=
    Scope.allTyped_of_mem_commentedTables rfl hb
  rcases scope.viewsShow_foldl_addView (statements.filterMap Scope.projection?) _ t ht with
    htable | ⟨-, hshows⟩
  · exact hbase htable
  · intro c hc
    obtain ⟨b, hb, s, hs, hshown⟩ := hshows c hc
    exact (hbase hb s hs).congr hshown.dataType hshown.enumValues

/-! ## The scalar for unknown data types -/

/-- The context with another scalar for unknown data types. -/
def Context.withDefault (ctx : Context) (scalar : TypeExpr) : Context :=
  { ctx with profile := { ctx.profile with defaultScalar := scalar } }

namespace Context

variable {ctx : Context} {t : Table} {c : Column}

/-- A typed column does not fall through to the scalar for unknown data types. -/
theorem baseTypes_withDefault (hscalars : ctx.profile.scalars = Profile.sqlite.scalars)
    (hc : c.IsTyped) (scalar : TypeExpr) (symbols : Symbols) :
    (ctx.withDefault scalar).baseTypes symbols c = ctx.baseTypes symbols c := by
  have hmapped : (ctx.withDefault scalar).mappedType? c (Unicode.lowercase c.dataType) =
      ctx.mappedType? c (Unicode.lowercase c.dataType) := rfl
  have hget : (ctx.withDefault scalar).profile.scalars.get? (Unicode.lowercase c.dataType) =
      ctx.profile.scalars.get? (Unicode.lowercase c.dataType) := rfl
  unfold baseTypes
  dsimp only
  rw [hmapped, hget]
  rcases hc with hscalar | ⟨-, hvalues⟩
  · rw [← lowercase_of_has_scalars hscalar, ← hscalars] at hscalar
    obtain ⟨type, htype⟩ := Option.isSome_iff_exists.mp hscalar
    rw [htype]
    rfl
  · obtain ⟨values, hvalues⟩ := Option.isSome_iff_exists.mp hvalues
    rw [hvalues]
    rfl

/-- Nor does any type that is made of it. -/
theorem columnType_withDefault (hscalars : ctx.profile.scalars = Profile.sqlite.scalars)
    (hc : c.IsTyped) (scalar : TypeExpr) (symbols : Symbols) :
    (ctx.withDefault scalar).columnType symbols t c = ctx.columnType symbols t c := by
  have hinferred : (ctx.withDefault scalar).inferredType symbols c =
      ctx.inferredType symbols c := by
    unfold inferredType
    rw [baseTypes_withDefault hscalars hc]
    rfl
  unfold columnType
  rw [hinferred]
  rfl

/-- The default scalar makes no difference to a table whose columns are typed. -/
theorem sameTable_withDefault (hscalars : ctx.profile.scalars = Profile.sqlite.scalars)
    (ht : t.AllTyped) (scalar : TypeExpr) : (ctx.withDefault scalar).SameTable ctx t t where
  identifier := rfl
  source := rfl
  columns := List.forall₂_same.mpr fun c hc =>
    ⟨rfl, rfl, columnType_withDefault hscalars (ht c hc) scalar⟩

end Context

/-- **SQLite columns are always typed.** Each column of a table or a view that SQLite statements
declare has a scalar of the dialect as its data type or is an enum with labels of its own. With any
options, the file for such a database is the same whatever the type for unknown data types is. -/
theorem sqlite_columns_typed (defaultSchema : Option String) (statements : List Sql.Statement) :
    let db := Database.ofStatements .sqlite defaultSchema statements
    (∀ t ∈ db.tables, ∀ c ∈ t.columns, c.IsTyped) ∧
      ∀ (options : Options) (scalar : TypeExpr),
        moduleStatements { Profile.sqlite with defaultScalar := scalar } options db =
          moduleStatements .sqlite options db := by
  intro db
  have htyped {t : Table} (ht : t ∈ db.tables) : t.AllTyped := Database.allTyped_of_mem_tables ht
  refine ⟨fun t ht => htyped ht, fun options scalar => ?_⟩
  refine moduleStatements_congr (List.forall₂_same.mpr fun t ht => ?_)
  have hsame : ((moduleContext .sqlite options db).withDefault scalar).SameTable
      (moduleContext .sqlite options db) t t :=
    Context.sameTable_withDefault rfl (htyped (List.mem_mergeSort.mp ht)) scalar
  exact hsame

end TableTypes
