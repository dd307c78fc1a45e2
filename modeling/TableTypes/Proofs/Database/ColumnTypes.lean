import TableTypes.Proofs.Database.Checks
import TableTypes.Proofs.Database.Views
import TableTypes.Proofs.RelatedLists

/-!
# What is left of the type of a column

Options, constraints and comments leave a column the type that it is declared with, except that in
SQLite a check can make it an enum with labels of its own. A column of a view has the type of a
column of a table. So the types in a database are those of its table definitions.
-/

namespace TableTypes

/-- A column has the type of another one, or in SQLite it has labels of its own instead. -/
structure Column.KeepsType (dialect : Dialect) (c c' : Column) : Prop where
  schema : c'.dataTypeSchema = c.dataTypeSchema
  isArray : c'.isArray = c.isArray
  type : (c'.dataType = c.dataType ∧ c'.enumValues = c.enumValues) ∨
    (dialect = .sqlite ∧ c'.enumValues.isSome)

namespace Column.KeepsType

variable {dialect : Dialect} {c c' c'' : Column}

/-- A column keeps its own type. -/
theorem refl (c : Column) : c.KeepsType dialect c :=
  ⟨rfl, rfl, .inl ⟨rfl, rfl⟩⟩

/-- Keeping the type is passed on from change to change. -/
theorem trans (h : c.KeepsType dialect c') (h' : c'.KeepsType dialect c'') :
    c.KeepsType dialect c'' where
  schema := h'.schema.trans h.schema
  isArray := h'.isArray.trans h.isArray
  type := by
    rcases h'.type with ⟨htype', hvalues'⟩ | hlabels
    · rw [htype', hvalues']
      exact h.type
    · exact .inr hlabels

/-- What a view shows of a column has its type. -/
theorem of_shows (h : c'.Shows c) : c.KeepsType dialect c' :=
  ⟨h.dataTypeSchema, h.isArray, .inl ⟨h.dataType, h.enumValues⟩⟩

end Column.KeepsType

namespace Scope

variable {scope : Scope}

/-- A list of values in a check keeps the type of a column, up to what it is for in the dialect. -/
theorem keepsType_checked (labels : List String) (c : Column) :
    c.KeepsType scope.dialect (scope.checked labels c) := by
  rw [checked]
  split
  · next hdialect => exact ⟨rfl, rfl, .inr ⟨hdialect, rfl⟩⟩
  · exact .refl c

/-- An option leaves a column its type and its labels, or it checks the column. -/
theorem applyOption_keeps_or_checks (c : Column) (option : Sql.ColumnOption) :
    let c' := scope.applyOption c option
    (c'.dataTypeSchema = c.dataTypeSchema ∧ c'.isArray = c.isArray ∧ c'.dataType = c.dataType ∧
      c'.enumValues = c.enumValues) ∨ ∃ labels, c' = scope.checked labels c := by
  unfold applyOption
  dsimp only
  split
  · exact .inl ⟨rfl, rfl, rfl, rfl⟩
  · exact .inl ⟨rfl, rfl, rfl, rfl⟩
  · exact .inl ⟨rfl, rfl, rfl, rfl⟩
  · exact .inl ⟨rfl, rfl, rfl, rfl⟩
  · exact .inl ⟨rfl, rfl, rfl, rfl⟩
  · -- any other option is known by its text only
    split
    · exact .inl ⟨rfl, rfl, rfl, rfl⟩
    · split
      · exact .inl ⟨rfl, rfl, rfl, rfl⟩
      · split
        · split
          · exact .inr ⟨_, rfl⟩
          · exact .inl ⟨rfl, rfl, rfl, rfl⟩
        · exact .inl ⟨rfl, rfl, rfl, rfl⟩

/-- An option leaves a column its type. -/
theorem keepsType_applyOption (c : Column) (option : Sql.ColumnOption) :
    c.KeepsType scope.dialect (scope.applyOption c option) := by
  rcases scope.applyOption_keeps_or_checks c option with
    ⟨hschema, harray, htype, hvalues⟩ | ⟨labels, hchecked⟩
  · exact ⟨hschema, harray, .inl ⟨htype, hvalues⟩⟩
  · rw [hchecked]
    exact keepsType_checked labels c

/-- All options of a column leave it its type. -/
theorem keepsType_column (d : Sql.ColumnDefinition) :
    (scope.plainColumn d).KeepsType scope.dialect (scope.column d) :=
  List.foldlRecOn (motive := (scope.plainColumn d).KeepsType scope.dialect) _ scope.applyOption
    (.refl _) fun c hc option _ => hc.trans (keepsType_applyOption c option)

end Scope

/-- Some columns keep their types in a table, each at its place. -/
def Table.KeepsTypes (dialect : Dialect) (columns : List Column) (t : Table) : Prop :=
  List.Forall₂ (Column.KeepsType dialect) columns t.columns

namespace Table.KeepsTypes

variable {dialect : Dialect} {columns : List Column} {t : Table}

/-- A change of single columns that keeps their types keeps those of the table. -/
theorem updateColumn (h : KeepsTypes dialect columns t) {f : Column → Column}
    (hf : ∀ c : Column, c.KeepsType dialect (f c)) (name : String) :
    KeepsTypes dialect columns (t.updateColumn name f) := by
  rw [KeepsTypes, Table.updateColumn_eq]
  refine forall₂_trans (fun hab hbc => hab.trans hbc) h ?_
  exact Scope.forall₂_changeColumn .refl (fun c _ => hf c) t.columns

/-- A constraint leaves the columns of a table their types. -/
theorem applyConstraint {scope : Scope} (h : KeepsTypes scope.dialect columns t)
    (constraint : Sql.TableConstraint) :
    KeepsTypes scope.dialect columns (scope.applyConstraint t constraint) := by
  unfold Scope.applyConstraint
  split
  · refine List.foldlRecOn (motive := KeepsTypes scope.dialect columns) _ _ h
      fun t ht name _ => ?_
    exact ht.updateColumn (f := fun c => { c with isNullable := false })
      (fun c => ⟨rfl, rfl, .inl ⟨rfl, rfl⟩⟩) name
  · split
    · exact h.updateColumn (Scope.keepsType_checked _) _
    · exact h

/-- The columns of a table have the types that they are declared with. -/
theorem table (scope : Scope) (d : Sql.TableDefinition) :
    KeepsTypes scope.dialect (d.columns.map scope.plainColumn) (scope.table d) := by
  refine List.foldlRecOn (motive := KeepsTypes scope.dialect _) d.constraints
    scope.applyConstraint ?_ fun t ht constraint _ => ht.applyConstraint constraint
  refine List.forall₂_map_left_iff.mpr (List.forall₂_map_right_iff.mpr ?_)
  exact List.forall₂_same.mpr fun c _ => Scope.keepsType_column c

/-- Comments on columns make no difference to their types. -/
theorem of_uncommented {u : Table} (h : KeepsTypes dialect columns t)
    (hsame : Scope.uncommented u = Scope.uncommented t) : KeepsTypes dialect columns u := by
  let strip (c : Column) : Column := { c with comment := none }
  have hcolumns : u.columns.map strip = t.columns.map strip := congrArg Table.columns hsame
  have hstrip (c c' : Column) : c.KeepsType dialect (strip c') ↔ c.KeepsType dialect c' :=
    ⟨fun h => ⟨h.schema, h.isArray, h.type⟩, fun h => ⟨h.schema, h.isArray, h.type⟩⟩
  have hmap (t : Table) :
      List.Forall₂ (Column.KeepsType dialect) columns (t.columns.map strip) ↔
        KeepsTypes dialect columns t := by
    rw [List.forall₂_map_right_iff]
    simp only [hstrip, KeepsTypes]
  rw [← hmap, hcolumns, hmap]
  exact h

/-- What is left of the column at a place. -/
theorem exists_getElem? (h : KeepsTypes dialect columns t) {k : Nat} {c : Column}
    (hc : columns[k]? = some c) : ∃ c', t.columns[k]? = some c' ∧ c.KeepsType dialect c' :=
  exists_getElem?_of_forall₂ h hc

/-- Each column is left of one of the columns. -/
theorem exists_of_mem (h : KeepsTypes dialect columns t) {c' : Column} (hc' : c' ∈ t.columns) :
    ∃ c ∈ columns, c.KeepsType dialect c' :=
  exists_of_mem_of_forall₂ h.flip hc'

end Table.KeepsTypes

namespace Database

variable {dialect : Dialect} {defaultSchema : Option String} {statements : List Sql.Statement}

/-- The table of a definition stands at the place of the definition, and its columns keep the types
that they are declared with. -/
theorem exists_table_keepsTypes (dialect : Dialect) (defaultSchema : Option String) {i : Nat}
    {d : Sql.TableDefinition} (hd : (statements.filterMap Scope.definition?)[i]? = some d) :
    ∃ t, (ofStatements dialect defaultSchema statements).tables[i]? = some t ∧
      t.KeepsTypes dialect
        (d.columns.map
          (({ dialect, defaultSchema } : Scope).withDomains statements).plainColumn) := by
  let scope := ({ dialect, defaultSchema } : Scope).withDomains statements
  let tables := scope.commentedTables (statements.filterMap Scope.definition?)
    (statements.filterMap Scope.comment?)
  have hplace : (tables.map Scope.uncommented)[i]? = some (Scope.uncommented (scope.table d)) := by
    rw [Scope.uncommented_commentedTables, List.getElem?_map, hd]
    rfl
  rw [List.getElem?_map, Option.map_eq_some_iff] at hplace
  obtain ⟨t, ht, hsame⟩ := hplace
  exact ⟨t, getElem?_tables_ofStatements ht, (Table.KeepsTypes.table scope d).of_uncommented hsame⟩

/-- Each column of a definition stands at its place in the table and keeps its type. -/
theorem exists_column_keepsType (dialect : Dialect) (defaultSchema : Option String) {i k : Nat}
    {d : Sql.TableDefinition} {c : Sql.ColumnDefinition}
    (hd : (statements.filterMap Scope.definition?)[i]? = some d) (hc : d.columns[k]? = some c) :
    ∃ t column, (ofStatements dialect defaultSchema statements).tables[i]? = some t ∧
      t.columns[k]? = some column ∧
      ((({ dialect, defaultSchema } : Scope).withDomains statements).plainColumn c).KeepsType
        dialect column := by
  obtain ⟨t, ht, hcolumns⟩ := exists_table_keepsTypes dialect defaultSchema hd
  obtain ⟨column, hcolumn, htype⟩ := hcolumns.exists_getElem? (by rw [List.getElem?_map, hc]; rfl)
  exact ⟨t, column, ht, hcolumn, htype⟩

/-- Each column of a table or a view has the type of a column of one of the definitions. -/
theorem exists_definition_of_column {t : Table}
    (ht : t ∈ (ofStatements dialect defaultSchema statements).tables) {column : Column}
    (hcolumn : column ∈ t.columns) :
    ∃ d ∈ statements.filterMap Scope.definition?, ∃ c ∈ d.columns,
      ((({ dialect, defaultSchema } : Scope).withDomains statements).plainColumn c).KeepsType
        dialect column := by
  let scope := ({ dialect, defaultSchema } : Scope).withDomains statements
  let base := scope.commentedTables (statements.filterMap Scope.definition?)
    (statements.filterMap Scope.comment?)
  obtain ⟨b, hb, s, hs, hshows⟩ : ∃ b ∈ base, ∃ s ∈ b.columns, s.KeepsType dialect column := by
    rcases scope.viewsShow_foldl_addView (statements.filterMap Scope.projection?) base t ht with
      hbase | ⟨-, hcolumns⟩
    · exact ⟨t, hbase, column, hcolumn, .refl column⟩
    · obtain ⟨b, hb, s, hs, hshows⟩ := hcolumns column hcolumn
      exact ⟨b, hb, s, hs, .of_shows hshows⟩
  have hmem := List.mem_map_of_mem (f := Scope.uncommented) hb
  rw [Scope.uncommented_commentedTables] at hmem
  obtain ⟨d, hd, hsame⟩ := List.mem_map.mp hmem
  have hkeeps := (Table.KeepsTypes.table scope d).of_uncommented hsame.symm
  obtain ⟨plain, hplain, htype⟩ := hkeeps.exists_of_mem hs
  obtain ⟨c, hc, rfl⟩ := List.mem_map.mp hplain
  exact ⟨d, hd, c, hc, htype.trans hshows⟩

end Database

end TableTypes
