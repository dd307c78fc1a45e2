import TableTypes.Proofs.Interfaces.Agreement
import TableTypes.Proofs.Interfaces.CustomImports

/-!
# Mapped data types

A mapping counts only for a data type that is known in the column that has it: the others leave no
trace in a file. Where a mapping counts, the column has the mapped type, and the namespace before its
first dot is imported if the user has an import for it. A namespace that is spelled like the id of a
table or an enum can find its place taken by that symbol; then it is not imported.
-/

namespace TableTypes

open TypeScript SymbolTable

/-! ## Mappings that no column uses -/

namespace Context

variable {ctx : Context} {t : Table} {c : Column} {mapped : String}

/-- Whether some column of some tables has a data type and the data type is known in it. -/
def usesType (ctx : Context) (tables : List Table) (dataType : String) : Bool :=
  tables.any fun t => t.columns.any fun c =>
    Unicode.lowercase c.dataType = dataType && ctx.isKnownType c dataType

/-- The mappings for the data types that some tables use. -/
def usedMappings (ctx : Context) (tables : List Table) : Dictionary String :=
  ctx.options.typeMapping.filter fun p => ctx.usesType tables p.1

/-- The context with another type mapping. -/
def withMapping (ctx : Context) (typeMapping : Dictionary String) : Context :=
  { ctx with options := { ctx.options with typeMapping } }

/-- A column has a mapped type exactly when its data type is mapped and known. -/
theorem mappedType?_eq_some_iff :
    ctx.mappedType? c (Unicode.lowercase c.dataType) = some mapped ↔
      ctx.options.typeMapping.get? (Unicode.lowercase c.dataType) = some mapped ∧
        ctx.isKnownType c (Unicode.lowercase c.dataType) = true := by
  unfold mappedType?
  cases ctx.options.typeMapping.get? (Unicode.lowercase c.dataType) <;> simp [and_comm]

/-- A column is mapped the same by the mappings that are used. -/
theorem mappedType?_usedMappings {tables : List Table} (ht : t ∈ tables) (hc : c ∈ t.columns) :
    (ctx.withMapping (ctx.usedMappings tables)).mappedType? c (Unicode.lowercase c.dataType) =
      ctx.mappedType? c (Unicode.lowercase c.dataType) := by
  refine Option.ext fun mapped => ?_
  rw [mappedType?_eq_some_iff, mappedType?_eq_some_iff]
  refine and_congr_left fun hknown => ?_
  have hused : ctx.usesType tables (Unicode.lowercase c.dataType) = true := by
    refine List.any_eq_true.mpr ⟨t, ht, List.any_eq_true.mpr ⟨c, hc, ?_⟩⟩
    rw [decide_eq_true rfl, Bool.true_and]
    exact hknown
  have hget := Dictionary.get?_filter ctx.options.typeMapping (ctx.usesType tables)
    (Unicode.lowercase c.dataType)
  rw [if_pos hused] at hget
  rw [← hget]
  rfl

/-- The type mapping makes the type of a column only by what it says of this column. -/
theorem columnType_withMapping {typeMapping : Dictionary String}
    (h : (ctx.withMapping typeMapping).mappedType? c (Unicode.lowercase c.dataType) =
      ctx.mappedType? c (Unicode.lowercase c.dataType)) (symbols : Symbols) :
    (ctx.withMapping typeMapping).columnType symbols t c = ctx.columnType symbols t c := by
  have hbase : (ctx.withMapping typeMapping).baseTypes symbols c = ctx.baseTypes symbols c := by
    unfold baseTypes
    dsimp only
    rw [h]
    rfl
  have hinferred : (ctx.withMapping typeMapping).inferredType symbols c =
      ctx.inferredType symbols c := by
    unfold inferredType
    rw [hbase]
    rfl
  unfold columnType
  rw [hinferred]
  rfl

/-- Tables look the same with the mappings that their columns use. -/
theorem sameTable_usedMappings (ctx : Context) {tables : List Table} (ht : t ∈ tables) :
    (ctx.withMapping (ctx.usedMappings tables)).SameTable ctx t t where
  identifier := rfl
  source := rfl
  columns := List.forall₂_same.mpr fun _ hc =>
    ⟨rfl, rfl, columnType_withMapping (mappedType?_usedMappings ht hc)⟩

/-! ## Mappings that a column uses -/

/-- A column without an override has the type that is mapped to its data type. -/
theorem columnType_of_mappedType? (hoverride : ctx.findOverride? t c = none)
    (hmapped : ctx.mappedType? c (Unicode.lowercase c.dataType) = some mapped)
    (symbols : Symbols) : (ctx.columnType symbols t c).1 = wrapType c [.raw mapped] := by
  simp [columnType, hoverride, inferredType, baseTypes, hmapped]

/-- The namespace of a mapped type is what stands before its first dot. -/
theorem mem_namespaces {space rest : String} (hoverride : ctx.findOverride? t c = none)
    (hmapped : ctx.mappedType? c (Unicode.lowercase c.dataType) = some (space ++ "." ++ rest))
    (hspace : '.' ∉ space.toList) : space ∈ ctx.namespaces t c := by
  have htext : (space ++ "." ++ rest).toList = space.toList ++ '.' :: rest.toList := by simp
  simp [namespaces, hoverride, hmapped, htext, Text.cut?_append_cons hspace]

/-- The namespace of a mapped type is registered with the type of its column if the library knows
it. -/
theorem contains_columnType_of_namespace {symbols : Symbols} {n : String}
    (hn : n ∈ ctx.namespaces t c) (hknows : ctx.library.Knows n) :
    (ctx.columnType symbols t c).2.contains n = true := by
  rw [columnType_symbols]
  exact contains_of_grows (ctx.library.grows_collectNames _ _)
    (Library.contains_collectNames_of_mem hn hknows)

/-- What a column registers at any time is registered after its table. -/
theorem contains_columnMembers_of_column {columns : List Column} {n : String} (hc : c ∈ columns)
    (hcolumn : ∀ symbols, (ctx.columnType symbols t c).2.contains n = true) (symbols : Symbols) :
    (ctx.columnMembers t symbols columns).2.contains n = true := by
  induction columns generalizing symbols with
  | nil => cases hc
  | cons c' columns ih =>
    rcases List.mem_cons.mp hc with rfl | hc
    · exact contains_of_grows (grows_columnMembers ctx t _ columns) (hcolumn symbols)
    · exact ih hc _

/-- What a column registers at any time is registered after all tables. -/
theorem contains_tableInterfaces_of_column {tables : List Table} {n : String} (ht : t ∈ tables)
    (hc : c ∈ t.columns) (hcolumn : ∀ symbols, (ctx.columnType symbols t c).2.contains n = true)
    (symbols : Symbols) : (ctx.tableInterfaces symbols tables).2.contains n = true := by
  induction tables generalizing symbols with
  | nil => cases ht
  | cons t' tables ih =>
    rcases List.mem_cons.mp ht with rfl | ht
    · exact contains_of_grows (grows_tableInterfaces ctx _ tables)
        (contains_columnMembers_of_column hc hcolumn _)
    · exact ih ht _

end Context

/-! ## Namespaces that are imported -/

section

variable {profile : Profile} {options : Options} {db : Database} {t : Table} {k : ℕ} {c : Column}
  {n spec : String}

/-- An id belongs to a table of the database or to an enum that declares the type of a column. -/
def DeclaredId (profile : Profile) (options : Options) (db : Database) (id : String) : Prop :=
  (∃ t ∈ db.tables, id = moduleTableId profile options db t) ∨
    ∃ t ∈ db.tables, ∃ c ∈ t.columns, ∃ typeId labels,
      (moduleContext profile options db).declaringEnum? t c = some (typeId, labels) ∧
        id = enumSymbolId typeId

/-- An id is registered as an import. -/
def RegisteredImport (profile : Profile) (options : Options) (db : Database) (id : String) : Prop :=
  ∃ e reference, (moduleSymbols profile options db).find? id = some e ∧
    e.symbol = .imported reference

/-- In the file for a database, a clause imports the export that a spec names for a local name and
binds the display name of this name. -/
def ImportsName (profile : Profile) (options : Options) (db : Database) (n spec : String) : Prop :=
  ∃ path clauses clause, .imports path clauses ∈ moduleStatements profile options db ∧
    clause ∈ clauses ∧ NamesExport n spec path clause.name ∧
    (moduleSymbols profile options db).name? n = some clause.bound

/-- A registered id belongs to a table or an enum and is no import, or it has the symbol that the
library has for it. -/
theorem declaredId_or_symbol? {id : String} {e : SymbolTable.Entry Symbol}
    (hfound : (moduleSymbols profile options db).find? id = some e) :
    (DeclaredId profile options db id ∧ ∀ reference, e.symbol ≠ .imported reference) ∨
      (moduleContext profile options db).library.symbol? id = some e.symbol := by
  rcases (grows_moduleSymbols _ _ _).find?_inv hfound with h | ⟨-, r, hr, rfl, hsymbol⟩
  · simp at h
  · rw [← hsymbol]
    cases hr with
    | table ht => exact .inl ⟨.inl ⟨_, ht, rfl⟩, fun _ h => Symbol.noConfusion h⟩
    | enum ht hc henum =>
      refine .inl ⟨.inr ⟨_, ht, _, hc, _, _, henum, rfl⟩, fun reference h => ?_⟩
      simp only [Context.enumRegistration, Context.enumSymbol] at h
      split at h <;> cases h
    | provided hprovides => exact .inr hprovides.2

/-- What is registered but not as an import is exported under its display name. -/
theorem exists_exports_mem {id : String} {e : SymbolTable.Entry Symbol}
    (hfound : (moduleSymbols profile options db).find? id = some e)
    (hsymbol : ∀ reference, e.symbol ≠ .imported reference) :
    ∃ declaration, .exports declaration ∈ moduleStatements profile options db ∧
      declaration.name = e.name := by
  cases hkind : e.symbol with
  | imported reference => exact absurd hkind (hsymbol reference)
  | definition d => exact ⟨_, typeAlias_mem_moduleStatements hfound hkind, rfl⟩
  | enum typeId members => exact ⟨_, enum_mem_moduleStatements hfound hkind, rfl⟩
  | table =>
    obtain ⟨t, ht, rfl⟩ := exists_table_of_find? hfound hkind
    obtain ⟨i, hi, hof⟩ := exists_interfaceOf profile options ht
    refine ⟨_, interface_mem_moduleStatements hi, ?_⟩
    have hname : (moduleSymbols profile options db).name? (moduleTableId profile options db t) =
        some i.name := hof.name
    rw [name?, hfound] at hname
    exact (Option.some.inj hname).symm

/-- The user's import for a name that is registered as an import is in the file. -/
theorem importsName_of_registeredImport
    (hknown : (moduleContext profile options db).library.symbol? n =
      some (.imported (parseImportSpec n spec)))
    (h : RegisteredImport profile options db n) : ImportsName profile options db n spec := by
  obtain ⟨e, reference, hfound, hsymbol⟩ := h
  rcases declaredId_or_symbol? hfound with ⟨-, hother⟩ | hprovided
  · exact absurd hsymbol (hother reference)
  · rw [hknown, hsymbol, Option.some.injEq, Symbol.imported.injEq] at hprovided
    obtain ⟨clauses, hmem, hclause⟩ := exists_importClause_mem hfound hsymbol
    refine ⟨_, clauses, _, hmem, hclause, ?_, ?_⟩
    · rw [id_of_find? hfound, ← hprovided]
      exact namesExport_parseImportSpec n spec
    · rw [bound_importClause, name?, hfound]
      rfl

/-- If no name is bound twice, what is not registered as an import is not imported. -/
theorem registeredImport_of_importsName
    (hbound : (boundNames (moduleStatements profile options db)).Nodup)
    (h : ImportsName profile options db n spec) : RegisteredImport profile options db n := by
  obtain ⟨path, clauses, clause, hmem, hclause, -, hname⟩ := h
  obtain ⟨e, hfound, heq⟩ := Option.map_eq_some_iff.mp hname
  by_contra hnot
  obtain ⟨declaration, hexports, hdeclared⟩ :=
    exists_exports_mem hfound fun reference hsymbol => hnot ⟨e, reference, hfound, hsymbol⟩
  have hself : clause.bound ∈ (Statement.exports declaration).bound :=
    List.mem_singleton.mpr (heq.symm.trans hdeclared.symm)
  have hcount := List.count_eq_one_of_mem hbound (List.mem_flatMap.mpr ⟨_, hexports, hself⟩)
  have hsame := eq_of_count_boundNames hcount hexports hmem hself (List.mem_map_of_mem hclause)
  cases hsame

/-- The user's import for the namespace of a mapped type that a column uses is registered, unless the
namespace is an id of a table or an enum or the name of a helper definition. -/
theorem declaredId_or_registeredImport (ht : t ∈ db.tables) (hc : c ∈ t.columns)
    (hn : n ∈ (moduleContext profile options db).namespaces t c)
    (hknown : (moduleContext profile options db).library.symbol? n =
      some (.imported (parseImportSpec n spec))) :
    DeclaredId profile options db n ∨ RegisteredImport profile options db n := by
  have hcontains : (moduleSymbols profile options db).contains n = true :=
    Context.contains_tableInterfaces_of_column (List.mem_mergeSort.mpr ht) hc
      (fun _ => Context.contains_columnType_of_namespace hn (Library.knows_iff.mpr ⟨_, hknown⟩)) _
  obtain ⟨e, hfound⟩ := Option.isSome_iff_exists.mp hcontains
  rcases declaredId_or_symbol? hfound with ⟨hid, -⟩ | hprovided
  · exact .inl hid
  · rw [hknown] at hprovided
    exact .inr ⟨e, _, hfound, (Option.some.inj hprovided).symm⟩

/-- **Mappings for unknown types are inert.** The file is the same with only the mappings for data
types that some column has and that are known in it. A column without an override whose data type is
known has the type that is mapped to it, wrapped as the column demands. If the text of the type begins
with a namespace that the user has an import for and that is no helper definition, then the file
imports it where the namespace is registered as an import, and only there if no name is bound twice.
It is registered so unless it is spelled like the id of a table or an enum. -/
theorem typeMapping_spec (profile : Profile) (options : Options) (db : Database) :
    moduleStatements profile { options with
        typeMapping := (moduleContext profile options db).usedMappings db.tables } db =
      moduleStatements profile options db ∧
    ∀ t ∈ db.tables, ∀ k c, t.columns[k]? = some c →
      (moduleContext profile options db).findOverride? t c = none →
      (moduleContext profile options db).isKnownType c (Unicode.lowercase c.dataType) = true →
      ∀ mapped, options.typeMapping.get? (Unicode.lowercase c.dataType) = some mapped →
        TypesColumn profile options db t k
          ((Context.wrapType c [.raw mapped]).rename (moduleSymbols profile options db) []) ∧
        ∀ space rest spec, mapped = space ++ "." ++ rest → '.' ∉ space.toList →
          options.customImports.keys.Nodup → options.customImports.get? space = some spec →
          profile.library.definitions.get? space = none →
          (RegisteredImport profile options db space → ImportsName profile options db space spec) ∧
          ((boundNames (moduleStatements profile options db)).Nodup →
            ImportsName profile options db space spec →
              RegisteredImport profile options db space) ∧
          (DeclaredId profile options db space ∨ RegisteredImport profile options db space) := by
  refine ⟨?_, fun t ht k c hc hoverride hknown mapped hget => ?_⟩
  · exact moduleStatements_congr (List.forall₂_same.mpr fun t ht =>
      (moduleContext profile options db).sameTable_usedMappings (List.mem_mergeSort.mp ht))
  · have hmapped : (moduleContext profile options db).mappedType? c
        (Unicode.lowercase c.dataType) = some mapped :=
      Context.mappedType?_eq_some_iff.mpr ⟨hget, hknown⟩
    refine ⟨typesColumn_of_columnType ht hc (Context.columnType_of_mappedType? hoverride hmapped),
      ?_⟩
    rintro space rest spec rfl hspace hkeys hspec hfree
    have himport : (moduleContext profile options db).library.symbol? space =
        some (.imported (parseImportSpec space spec)) := symbol?_of_customImport hkeys hspec hfree
    exact ⟨importsName_of_registeredImport himport, registeredImport_of_importsName,
      declaredId_or_registeredImport ht (List.mem_of_getElem? hc)
        (Context.mem_namespaces hoverride hmapped hspace) himport⟩

end

/-- A column of times has a mapped type whose namespace is imported, and a mapping for a type that no
column has is inert. -/
theorem typeMapping_spec_of_temporal :
    let c : Column := { name := "at", dataType := "timestamptz" }
    let t : Table := { schema := none, name := "t", columns := [c] }
    let db : Database := { tables := [t], enums := [] }
    let used : Options :=
      { customImports := [("Temporal", "temporal-polyfill")]
        typeMapping := [("timestamptz", "Temporal.Instant")] }
    let options : Options :=
      { used with typeMapping := ("citext", "Temporal.Text") :: used.typeMapping }
    moduleStatements .postgres used db = moduleStatements .postgres options db ∧
      TypesColumn .postgres options db t 0 (.raw "Temporal.Instant") ∧
      ImportsName .postgres options db "Temporal" "temporal-polyfill" := by
  intro c t db used options
  obtain ⟨hinert, hcolumns⟩ := typeMapping_spec .postgres options db
  have hused : (moduleContext .postgres options db).usedMappings db.tables = used.typeMapping := by
    decide +kernel
  obtain ⟨htypes, himports⟩ := hcolumns t (List.mem_singleton.mpr rfl) 0 c rfl rfl
    (by decide +kernel) "Temporal.Instant" (by decide +kernel)
  rw [hused] at hinert
  refine ⟨hinert, ?_, ?_⟩
  · have hraw : (Context.wrapType c [.raw "Temporal.Instant"]).rename
        (moduleSymbols .postgres options db) [] = .raw "Temporal.Instant" := by cbv
    rwa [hraw] at htypes
  · obtain ⟨himported, -, hregistered⟩ :=
      himports "Temporal" "Instant" _ (by decide) (by decide) (by decide) rfl rfl
    refine himported (hregistered.resolve_left ?_)
    rintro (⟨t', -, h⟩ | ⟨t', -, c', -, typeId, labels, -, h⟩)
    · exact tableSymbolId_ne_of_colon_notMem (by decide) _ h.symm
    · exact enumSymbolId_ne_of_colon_notMem (by decide) _ h.symm

/-- A namespace that is spelled like the id of the table is not imported. -/
theorem not_importsName_of_table_id :
    let c : Column := { name := "id", dataType := "integer" }
    let t : Table := { schema := none, name := "t", columns := [c] }
    let db : Database := { tables := [t], enums := [] }
    let options : Options :=
      { customImports := [("table:t", "./types#Id")]
        typeMapping := [("integer", "table:t.Key")] }
    (moduleContext .sqlite options db).findOverride? t c = none ∧
      (moduleContext .sqlite options db).isKnownType c (Unicode.lowercase c.dataType) = true ∧
      Profile.sqlite.library.definitions.get? "table:t" = none ∧
      (∀ path clauses, .imports path clauses ∉ moduleStatements .sqlite options db) ∧
      ¬ImportsName .sqlite options db "table:t" "./types#Id" := by
  intro c t db options
  have hfile : moduleStatements .sqlite options db =
      [.exports (.interface "T" [{ key := "id", value := .raw "table:t.Key", comment := none }]),
        .exports (.interface "DB" [{ key := "t", value := .name "T" true, comment := none }])] := by
    cbv
  have hnone (path : String) (clauses : List ImportClause) :
      .imports path clauses ∉ moduleStatements .sqlite options db := by
    rw [hfile]
    simp
  refine ⟨rfl, by decide +kernel, by decide, hnone, ?_⟩
  rintro ⟨path, clauses, clause, hmem, -⟩
  exact hnone path clauses hmem

end TableTypes
