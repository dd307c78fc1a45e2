import TableTypes.Proofs.Interfaces.BoundNames
import TableTypes.Proofs.Interfaces.Renaming

/-!
# Tables in a file

Where no two tables share an identifier, a file keeps its tables apart: the last interface lists
each of them once, and each has an interface with its columns in order. Tables that share an
identifier share one property in the list, as it is keyed by identifier; and tables can come to share
a display name with each other or with the list itself.
-/

namespace TableTypes

open TypeScript SymbolTable

/-! ## Interfaces of one name -/

/-- The properties of an interface declaration of the given name. -/
def TypeScript.Declaration.membersUnder? (name : String) : Declaration → Option Members
  | .interface n members => if n = name then some members else none
  | _ => none

/-- The properties of each interface that is exported under a name. -/
def TypeScript.interfacesNamed (name : String) (statements : List Statement) : List Members :=
  statements.filterMap fun
    | .exports declaration => declaration.membersUnder? name
    | .imports .. => none

/-- The interfaces of a name are found one statement after another. -/
theorem interfacesNamed_append (name : String) (before after : List Statement) :
    interfacesNamed name (before ++ after) =
      interfacesNamed name before ++ interfacesNamed name after :=
  List.filterMap_append

/-- Imports export no interface. -/
theorem interfacesNamed_importStatements (name : String)
    (clauses : Dictionary (List ImportClause)) :
    interfacesNamed name (importStatements clauses) = [] := by
  simp [interfacesNamed, importStatements, List.filterMap_map]

/-- The interfaces of a name are found among the declarations. -/
theorem interfacesNamed_exports (name : String) (declarations : List Declaration) :
    interfacesNamed name (declarations.map .exports) =
      declarations.filterMap (Declaration.membersUnder? name) := by
  simp only [interfacesNamed, List.filterMap_map]
  rfl

/-- Enums and aliases are no interfaces, so the interfaces of a name are those of tables and the one
that lists all tables. -/
theorem interfacesNamed_moduleStatements_perm (profile : Profile) (options : Options)
    (db : Database) (name : String) :
    (interfacesNamed name (moduleStatements profile options db)).Perm
      (((moduleInterfaces profile options db).map
          (Interface.declaration (moduleSymbols profile options db))).filterMap
          (Declaration.membersUnder? name) ++
        if databaseName = name then [moduleTables profile options db] else []) := by
  rw [moduleStatements_eq, interfacesNamed_append, interfacesNamed_append,
    interfacesNamed_importStatements, interfacesNamed_exports, List.nil_append, sortedDeclarations,
    List.filterMap_append, List.filterMap_append]
  generalize moduleSymbols profile options db = symbols
  have hother {ds : List Declaration} (hds : ∀ d ∈ ds, d.membersUnder? name = none) :
      (sortDeclarations ds).filterMap (Declaration.membersUnder? name) = [] := by
    refine List.filterMap_eq_nil_iff.mpr fun d hd => hds d ?_
    exact (sortDeclarations_perm ds).mem_iff.mp hd
  have henums : ∀ d ∈ enumDeclarations symbols, d.membersUnder? name = none := by
    intro d hd
    obtain ⟨e, -, he⟩ := List.mem_filterMap.mp hd
    split at he <;> cases he
    rfl
  have haliases : ∀ d ∈ aliasDeclarations symbols, d.membersUnder? name = none := by
    intro d hd
    obtain ⟨e, -, he⟩ := List.mem_filterMap.mp hd
    split at he <;> cases he
    rfl
  have hlast : interfacesNamed name
      [.exports (.interface databaseName (moduleTables profile options db))] =
      if databaseName = name then [moduleTables profile options db] else [] := by
    simp only [interfacesNamed, List.filterMap_cons, Declaration.membersUnder?, List.filterMap_nil]
    split <;> simp_all
  rw [hother henums, hother haliases, hlast, List.nil_append, List.nil_append]
  exact ((sortDeclarations_perm _).filterMap _).append_right _

/-- Of interfaces with distinct names one is found under each name. -/
theorem filterMap_membersUnder?_eq_singleton {symbols : Symbols} {interfaces : List Interface}
    (hnames : (interfaces.map (·.name)).Nodup) {i : Interface} (hi : i ∈ interfaces) :
    (interfaces.map (Interface.declaration symbols)).filterMap
        (Declaration.membersUnder? i.name) =
      [renameProperties symbols [] i.members] := by
  have hnone {rest : List Interface} (hrest : ∀ j ∈ rest, j.name ≠ i.name) :
      (rest.map (Interface.declaration symbols)).filterMap
        (Declaration.membersUnder? i.name) = [] := by
    refine List.filterMap_eq_nil_iff.mpr fun d hd => ?_
    obtain ⟨j, hj, rfl⟩ := List.mem_map.mp hd
    simp [Interface.declaration, Declaration.membersUnder?, hrest j hj]
  obtain ⟨before, after, rfl⟩ := List.append_of_mem hi
  rw [List.map_append, List.map_cons] at hnames
  obtain ⟨-, hafter, hdisjoint⟩ := List.nodup_append'.mp hnames
  have hbefore : ∀ j ∈ before, j.name ≠ i.name := by
    intro j hj heq
    exact List.disjoint_left.mp hdisjoint (List.mem_map_of_mem hj) (by simp [heq])
  have hrest : ∀ j ∈ after, j.name ≠ i.name := by
    intro j hj heq
    exact (List.nodup_cons.mp hafter).1 (heq ▸ List.mem_map_of_mem hj)
  rw [List.map_append, List.map_cons, List.filterMap_append, List.filterMap_cons, hnone hbefore,
    hnone hrest]
  simp [Interface.declaration, Declaration.membersUnder?]

/-- Display names change neither keys nor comments. -/
theorem map_key_renameProperties (symbols : Symbols) (params : List String) (ps : Members) :
    (renameProperties symbols params ps).map (fun p => (p.key, p.comment)) =
      ps.map fun p => (p.key, p.comment) := by
  rw [renameProperties_eq_map, List.map_map]
  exact List.map_congr_left fun p _ => by simp [renameProperty_eq]

/-- The properties that stand for some columns have their keys and comments. -/
theorem Context.map_key_of_propertyOf {ctx : Context} {t : Table} {columns : List Column}
    {members : Members} (h : List.Forall₂ (ctx.PropertyOf t) columns members) :
    members.map (fun p => (p.key, p.comment)) =
      columns.map fun c => (ctx.casedName c.name, c.comment) := by
  induction h with
  | nil => rfl
  | cons hproperty _ ih =>
    rw [List.map_cons, List.map_cons, ih, hproperty.key, hproperty.comment]

/-! ## The list of all tables -/

/-- Lists a table under its identifier, if its symbol has a display name. -/
def Context.addTable (ctx : Context) (symbols : Symbols) (d : Dictionary String) (t : Table) :
    Dictionary String :=
  match symbols.name? (tableSymbolId (ctx.tableIdentifier t)) with
  | some name => d.put (ctx.tableIdentifier t) name
  | none => d

/-- The property under which the interface of a table is listed. -/
def listedTable (key name : String) : Property TypeExpr :=
  { key, value := .name name true, comment := none }

/-- The members of the database are the tables by their identifiers, each with its name. -/
theorem Context.databaseMembers_eq (ctx : Context) (symbols : Symbols) (tables : List Table) :
    ctx.databaseMembers symbols tables =
      (tables.foldl (ctx.addTable symbols) []).map fun entry => listedTable entry.1 entry.2 := rfl

section

variable {ctx : Context} {symbols : Symbols}

/-- Adding tables keeps the identifiers in order. -/
theorem Context.ascending_foldl_addTable (tables : List Table) {d : Dictionary String}
    (hd : d.Ascending) : (tables.foldl (ctx.addTable symbols) d).Ascending := by
  induction tables generalizing d with
  | nil => exact hd
  | cons t tables ih =>
    refine ih ?_
    unfold addTable
    split
    · exact hd.put _ _
    · exact hd

/-- Under an identifier the display name of its table is listed. -/
theorem Context.get?_foldl_addTable (tables : List Table) (d : Dictionary String) (key : String) :
    (tables.foldl (ctx.addTable symbols) d).get? key =
      if key ∈ tables.map ctx.tableIdentifier then
        (symbols.name? (tableSymbolId key)).or (d.get? key)
      else d.get? key := by
  induction tables generalizing d with
  | nil => simp
  | cons t tables ih =>
    have hadd : (ctx.addTable symbols d t).get? key = if key = ctx.tableIdentifier t then
        (symbols.name? (tableSymbolId key)).or (d.get? key) else d.get? key := by
      unfold addTable
      split
      · next name hname =>
        rw [Dictionary.get?_put]
        split
        · next h => rw [h, hname, Option.some_or]
        · rfl
      · next hnone =>
        split
        · next h => rw [h, hnone, Option.none_or]
        · rfl
    rw [List.foldl_cons, ih, hadd, List.map_cons]
    by_cases hkey : key = ctx.tableIdentifier t
    · cases symbols.name? (tableSymbolId key) <;> simp [hkey]
    · simp [hkey]

/-- Each table is listed under its identifier with its display name. -/
theorem Context.mem_databaseMembers_iff {tables : List Table} {p : Property TypeExpr} :
    p ∈ ctx.databaseMembers symbols tables ↔ ∃ t ∈ tables, ∃ name,
      symbols.name? (tableSymbolId (ctx.tableIdentifier t)) = some name ∧
        p = listedTable (ctx.tableIdentifier t) name := by
  have hentry (key name : String) : (key, name) ∈ tables.foldl (ctx.addTable symbols) [] ↔
      key ∈ tables.map ctx.tableIdentifier ∧ symbols.name? (tableSymbolId key) = some name := by
    rw [← (ctx.ascending_foldl_addTable tables .nil).get?_eq_some_iff, get?_foldl_addTable]
    split
    · next hkey => simp [hkey, Dictionary.get?]
    · next hkey => simp [hkey, Dictionary.get?]
  rw [databaseMembers_eq, List.mem_map]
  constructor
  · rintro ⟨⟨key, name⟩, hmem, rfl⟩
    obtain ⟨hkey, hname⟩ := (hentry key name).mp hmem
    obtain ⟨t, ht, rfl⟩ := List.mem_map.mp hkey
    exact ⟨t, ht, name, hname, rfl⟩
  · rintro ⟨t, ht, name, hname, rfl⟩
    exact ⟨_, (hentry _ name).mpr ⟨List.mem_map_of_mem ht, hname⟩, rfl⟩

/-- The members of the database stand in the order of their identifiers, each of them once. -/
theorem Context.pairwise_databaseMembers (tables : List Table) :
    (ctx.databaseMembers symbols tables).Pairwise fun p q => p.key < q.key := by
  rw [databaseMembers_eq]
  exact List.pairwise_map.mpr (ctx.ascending_foldl_addTable tables .nil)

end

/-- Tables with new and distinct identifiers are listed one by one. -/
theorem Context.foldl_addTable_perm {ctx : Context} {symbols : Symbols} {name : Table → String}
    {tables : List Table}
    (hname : ∀ t ∈ tables,
      symbols.name? (tableSymbolId (ctx.tableIdentifier t)) = some (name t))
    (hdistinct : (tables.map ctx.tableIdentifier).Nodup) {d : Dictionary String}
    (hnew : ∀ t ∈ tables, ctx.tableIdentifier t ∉ d.keys) :
    (tables.foldl (ctx.addTable symbols) d).Perm
      (d ++ tables.map fun t => (ctx.tableIdentifier t, name t)) := by
  induction tables generalizing d with
  | nil => simp
  | cons t tables ih =>
    obtain ⟨hfirst, hrest⟩ := List.nodup_cons.mp hdistinct
    have hadd : ctx.addTable symbols d t = d.put (ctx.tableIdentifier t) (name t) := by
      simp [addTable, hname t (by simp)]
    rw [List.foldl_cons, hadd]
    refine (ih (fun u hu => hname u (List.mem_cons_of_mem _ hu)) hrest ?_).trans ?_
    · intro u hu hkey
      rcases Dictionary.mem_keys_put.mp hkey with h | h
      · exact hfirst (h ▸ List.mem_map_of_mem hu)
      · exact hnew u (List.mem_cons_of_mem _ hu) h
    · refine ((Dictionary.put_perm_of_notMem _ (hnew t (by simp))).append_right _).trans ?_
      exact List.perm_middle.symm

/-- Tables with distinct identifiers are listed once each. -/
theorem moduleTables_perm {profile : Profile} {options : Options} {db : Database}
    {name : Table → String}
    (hname : ∀ t ∈ db.tables, moduleTableName? profile options db t = some (name t))
    (hdistinct : (db.tables.map (moduleContext profile options db).tableIdentifier).Nodup) :
    (moduleTables profile options db).Perm
      (db.tables.map fun t =>
        listedTable ((moduleContext profile options db).tableIdentifier t) (name t)) := by
  have hsorted := List.mergeSort_perm db.tables Table.precedes
  have hnames : ∀ t ∈ db.tables.mergeSort Table.precedes,
      moduleTableName? profile options db t = some (name t) :=
    fun t ht => hname t (List.mem_mergeSort.mp ht)
  have hlisted := Context.foldl_addTable_perm (d := []) hnames
    ((hsorted.map _).nodup_iff.mpr hdistinct) (by simp [Dictionary.keys])
  rw [moduleTables, Context.databaseMembers_eq]
  refine (hlisted.map _).trans ?_
  rw [List.nil_append, List.map_map]
  exact hsorted.map _

/-! ## No table is lost -/

/-- Statements keep tables apart, under the given keys and names: the last interface lists each
table once, tables have different names, and under the name of a table one interface is exported,
with a property for each of the columns in order. -/
structure KeepsTables (ctx : Context) (tables : List Table) (key name : Table → String)
    (statements : List Statement) : Prop where
  listed : ∃ before members,
    statements = before ++ [.exports (.interface databaseName members)] ∧
    members.Perm (tables.map fun t => listedTable (key t) (name t))
  distinct : (tables.map name).Nodup
  exported : ∀ t ∈ tables, ∃ members, interfacesNamed (name t) statements = [members] ∧
    members.map (fun p => (p.key, p.comment)) =
      t.columns.map fun c => (ctx.casedName c.name, c.comment)

/-- The interface of a table is exported once if no other table and not the list of all tables has
its name. -/
theorem interfacesNamed_table {profile : Profile} {options : Options} {db : Database}
    (hnames : (db.tables.map (moduleTableName? profile options db)).Nodup) {t : Table}
    (ht : t ∈ db.tables) {name : String} (hname : moduleTableName? profile options db t = some name)
    (hdatabase : name ≠ databaseName) :
    ∃ members, interfacesNamed name (moduleStatements profile options db) = [members] ∧
      members.map (fun p => (p.key, p.comment)) = t.columns.map fun c =>
        ((moduleContext profile options db).casedName c.name, c.comment) := by
  obtain ⟨i, hi, hof⟩ := exists_interfaceOf profile options ht
  obtain rfl : i.name = name := Option.some.inj (hof.name.symm.trans hname)
  have hperm := interfacesNamed_moduleStatements_perm profile options db i.name
  rw [if_neg (Ne.symm hdatabase), List.append_nil,
    filterMap_membersUnder?_eq_singleton (nodup_interfaceNames_iff.mpr hnames) hi] at hperm
  refine ⟨_, List.perm_singleton.mp hperm, ?_⟩
  rw [map_key_renameProperties]
  exact Context.map_key_of_propertyOf hof.members

/-- No table is lost or merged in a file where tables have distinct identifiers, no registration of
a table clashes with another table and no table has the name of the interface that lists all
tables. -/
theorem keepsTables_of_distinct_identifiers {profile : Profile} {options : Options} {db : Database}
    (hidentifiers : (db.tables.map (moduleContext profile options db).tableIdentifier).Nodup)
    {history : List (Registration Symbol)}
    (hhistory : moduleSymbols profile options db = registered .pascal history)
    (hclash : ¬HasClashAmong .pascal (moduleTableIds profile options db) history)
    (hdatabase : ∀ t ∈ db.tables, moduleTableName? profile options db t ≠ some databaseName) :
    ∃ name : Table → String,
      (∀ t ∈ db.tables, moduleTableName? profile options db t = some (name t)) ∧
      KeepsTables (moduleContext profile options db) db.tables
        (moduleContext profile options db).tableIdentifier name
        (moduleStatements profile options db) := by
  have hdistinct : (moduleSymbols profile options db).NamesDistinctOn
      (moduleTableIds profile options db) := by
    rwa [hhistory, namesDistinctOn_registered_iff]
  have htables := nodup_tableNames_of_nodup hidentifiers hdistinct
  let name : Table → String := fun t => (moduleTableName? profile options db t).getD ""
  have hname : ∀ t ∈ db.tables, moduleTableName? profile options db t = some (name t) := by
    intro t ht
    obtain ⟨e, hfound⟩ := exists_find?_of_mem profile options ht
    simp [name, moduleTableName?, name?, hfound]
  refine ⟨name, hname, ?_, ?_, ?_⟩
  · refine ⟨importStatements (importClauses (moduleSymbols profile options db)) ++
      (sortedDeclarations (moduleSymbols profile options db)
        (moduleInterfaces profile options db)).map .exports, _, ?_,
      moduleTables_perm hname hidentifiers⟩
    rw [moduleStatements_eq, List.append_assoc]
  · have hsome : db.tables.map (moduleTableName? profile options db) =
        (db.tables.map name).map some := by
      rw [List.map_map]
      exact List.map_congr_left hname
    rw [hsome] at htables
    exact htables.of_map
  · intro t ht
    refine interfacesNamed_table htables ht (hname t ht) fun hdb => ?_
    exact hdatabase t ht (hdb ▸ hname t ht)

/-- Two tables of one name in two schemas are kept apart. -/
theorem keepsTables_of_users_in_two_schemas :
    let columns := [Column.ofType "id" "int4", Column.ofType "name" "text"]
    let db : Database :=
      { tables := [{ schema := some "public", name := "users", columns },
          { schema := some "blog", name := "users", columns }], enums := [] }
    ∃ name : Table → String,
      (∀ t ∈ db.tables, moduleTableName? .postgres {} db t = some (name t)) ∧
      KeepsTables (moduleContext .postgres {} db) db.tables
        (moduleContext .postgres {} db).tableIdentifier name
        (moduleStatements .postgres {} db) := by
  intro columns db
  have hnames : (moduleSymbols .postgres {} db).entries.map (·.name) = ["BlogUsers", "Users"] := by
    cbv
  have hdistinct : (moduleSymbols .postgres {} db).NamesDistinct := by
    rw [(distinctIds_moduleSymbols .postgres {} db).namesDistinct_iff, hnames]
    decide
  obtain ⟨history, hhistory⟩ := (grows_moduleSymbols .postgres {} db).exists_registered
  refine keepsTables_of_distinct_identifiers (by decide +kernel) hhistory ?_ ?_
  · rw [← namesDistinctOn_registered_iff, ← hhistory]
    exact hdistinct.on _
  · intro t _ hname
    have hdatabase := mem_map_name_of_name? hname
    rw [hnames] at hdatabase
    revert hdatabase
    decide

/-- Statements that keep the tables of a database end with an interface that lists those tables. -/
theorem KeepsTables.moduleTables_perm {profile : Profile} {options : Options} {db : Database}
    {ctx : Context} {key name : Table → String}
    (h : KeepsTables ctx db.tables key name (moduleStatements profile options db)) :
    (moduleTables profile options db).Perm
      (db.tables.map fun t => listedTable (key t) (name t)) := by
  obtain ⟨before, members, hstatements, hperm⟩ := h.listed
  rw [moduleStatements_eq, ← List.append_assoc] at hstatements
  obtain ⟨-, hlast⟩ := List.append_inj' hstatements rfl
  simp only [List.cons.injEq, Statement.exports.injEq, Declaration.interface.injEq, true_and,
    and_true] at hlast
  rwa [hlast]

/-- Statements that keep tables list no interface twice. -/
theorem KeepsTables.nodup_listed {profile : Profile} {options : Options} {db : Database}
    {ctx : Context} {key name : Table → String}
    (h : KeepsTables ctx db.tables key name (moduleStatements profile options db)) :
    ((moduleTables profile options db).map (·.value)).Nodup := by
  have hinjective : Function.Injective fun n => TypeExpr.name n true := fun _ _ heq =>
    (TypeExpr.name.injEq .. ▸ heq).1
  rw [(h.moduleTables_perm.map (·.value)).nodup_iff, List.map_map]
  have hnames := h.distinct.map hinjective
  rwa [List.map_map] at hnames

/-- Different tables are not enough for a file to keep tables apart: in camel case, tables can share
an identifier; a number and the same number behind an underscore share a display name; and a table
can be called like the interface that lists all tables. -/
theorem not_keepsTables_of_distinct_tables :
    (let options : Options := { camelCase := true }
    let db : Database :=
      { tables := [{ schema := none, name := "fooBar", columns := [Column.ofType "name" "text"] },
          { schema := none, name := "foo_bar", columns := [Column.ofType "id" "integer"] }],
        enums := [] }
    (db.tables.map fun t => (t.schema, t.name)).Nodup ∧
    ∀ key name, ¬KeepsTables (moduleContext .sqlite options db) db.tables key name
      (moduleStatements .sqlite options db)) ∧
    (let db : Database :=
      { tables := [{ schema := none, name := "1" }, { schema := none, name := "_1" }],
        enums := [] }
    (db.tables.map fun t => (t.schema, t.name)).Nodup ∧
    ∀ key name, ¬KeepsTables (moduleContext .sqlite {} db) db.tables key name
      (moduleStatements .sqlite {} db)) ∧
    (let db : Database := { tables := [{ schema := none, name := "DB" }], enums := [] }
    (db.tables.map fun t => (t.schema, t.name)).Nodup ∧
    ∀ key name, ¬KeepsTables (moduleContext .sqlite {} db) db.tables key name
      (moduleStatements .sqlite {} db)) := by
  refine ⟨?_, ?_, ?_⟩
  · intro options db
    have htables : moduleTables .sqlite options db = [listedTable "fooBar" "FooBar"] := by cbv
    refine ⟨by decide, fun key name h => ?_⟩
    have hlength := h.moduleTables_perm.length_eq
    rw [htables] at hlength
    simp [db] at hlength
  · intro db
    have htables : moduleTables .sqlite {} db = [listedTable "1" "_1", listedTable "_1" "_1"] := by
      cbv
    refine ⟨by decide, fun key name h => ?_⟩
    have hlisted := h.nodup_listed
    rw [htables] at hlisted
    simp [listedTable] at hlisted
  · intro db
    have htables : moduleTables .sqlite {} db = [listedTable "DB" "DB"] := by cbv
    have hinterfaces : (interfacesNamed "DB" (moduleStatements .sqlite {} db)).length = 2 := by cbv
    refine ⟨by decide, fun key name h => ?_⟩
    obtain ⟨members, hexported, -⟩ := h.exported _ (List.mem_singleton.mpr rfl)
    have hperm := h.moduleTables_perm
    rw [htables, List.map_singleton] at hperm
    have hlisted := List.singleton_perm_singleton.mp hperm
    simp only [listedTable, Property.mk.injEq, TypeExpr.name.injEq, and_true] at hlisted
    rw [← hlisted.2] at hexported
    simp [hexported] at hinterfaces

end TableTypes
