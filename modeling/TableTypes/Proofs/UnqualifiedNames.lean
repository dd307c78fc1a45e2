import TableTypes.Generation
import TableTypes.Proofs.Database.Introspected
import TableTypes.Proofs.Interfaces.Tables

/-!
# Names without a schema

A schema file is read with the first of the default schemas as the one of names without a schema,
and the interfaces leave the default schemas out. So a table or view that is created under a name
without a schema is listed by its own name, and a column whose type is written as the name of an
enum gets the labels of that enum.
-/

namespace TableTypes

/-! ## Listed tables -/

/-- A table is listed under a key, by the name of its interface. -/
def ListedUnder (profile : Profile) (options : Options) (db : Database) (t : Table) (key : String) :
    Prop :=
  ∃ name, moduleTableName? profile options db t = some name ∧
    listedTable key name ∈ moduleTables profile options db

/-- Each table is listed under its identifier. -/
theorem listedUnder_tableIdentifier (profile : Profile) (options : Options) {db : Database}
    {t : Table} (ht : t ∈ db.tables) :
    ListedUnder profile options db t ((moduleContext profile options db).tableIdentifier t) := by
  obtain ⟨e, hfound⟩ := exists_find?_of_mem profile options ht
  have hname : moduleTableName? profile options db t = some e.name := by
    simp [moduleTableName?, SymbolTable.name?, hfound]
  exact ⟨e.name, hname, Context.mem_databaseMembers_iff.mpr
    ⟨t, List.mem_mergeSort.mpr ht, e.name, hname, rfl⟩⟩

namespace Settings

variable {s : Settings} {options : Options} {statements : List Sql.Statement}

/-- The database that some statements declare. -/
def database (s : Settings) (statements : List Sql.Statement) : Database :=
  .ofStatements s.dialect s.schemaOfNames statements

/-- The scope in which names are read as long as no domains are known. -/
def names (s : Settings) : Scope :=
  { dialect := s.dialect, defaultSchema := s.schemaOfNames }

/-- The scope in which the tables of some statements are read. -/
def scope (s : Settings) (statements : List Sql.Statement) : Scope :=
  s.names.withDomains statements

/-- What the declarations of the file for some statements depend on besides the tables. -/
def context (s : Settings) (options : Options) (statements : List Sql.Statement) : Context :=
  moduleContext (.ofDialect s.dialect) options (s.database statements)

/-- The name that a name without a schema stands for. -/
def fullName (s : Settings) (name : String) : String :=
  ({ schema := s.schemaOfNames, name } : QualifiedName).text

/-! ## Default schemas -/

/-- The schema of names without one is the first of those that are left out. -/
theorem head?_defaultSchemas (hoptions : s.options = .ok options)
    (statements : List Sql.Statement) :
    (s.context options statements).defaultSchemas.head? = s.schemaOfNames := by
  obtain ⟨rules, -, rfl⟩ : ∃ rules, s.rules = .ok rules ∧ _ = options := by
    unfold Settings.options at hoptions
    cases hrules : s.rules with
    | error e => simp [hrules, Except.map] at hoptions
    | ok rules => exact ⟨rules, rfl, by simpa [hrules, Except.map] using hoptions⟩
  simp only [context, moduleContext, Context.defaultSchemas, schemaOfNames]
  cases hschemas : s.defaultSchemas with
  | nil => cases s.dialect <;> rfl
  | cons schema rest => simp

/-- The schema of names without one is left out. -/
theorem qualify_schemaOfNames (hoptions : s.options = .ok options) (name : String) :
    (s.context options statements).qualify s.schemaOfNames name = name := by
  have hhead := head?_defaultSchemas hoptions statements
  unfold Context.qualify
  split
  · next schema hschema =>
    rw [hschema] at hhead
    have hmem : (s.context options statements).isDefaultSchema schema = true :=
      List.contains_iff_mem.mpr (List.mem_of_head? hhead)
    rw [if_pos hmem]
  · rfl

/-- A data type without a schema is looked up under its full name first. -/
theorem findEnum?_eq_some (hoptions : s.options = .ok options) {c : Column}
    (hschema : c.dataTypeSchema = none) {dataType : String} {labels : List String}
    (hlabels : (s.database statements).enums.labels? (s.fullName dataType) = some labels) :
    (s.context options statements).findEnum? c dataType = some labels := by
  have hhead := head?_defaultSchemas hoptions statements
  unfold fullName QualifiedName.text at hlabels
  unfold Context.findEnum?
  rw [hschema]
  cases hschemas : (s.context options statements).defaultSchemas with
  | nil =>
    rw [hschemas] at hhead
    rw [← hhead] at hlabels
    exact hlabels
  | cons schema rest =>
    rw [hschemas] at hhead
    rw [← hhead] at hlabels
    have hfirst : (s.context options statements).enums.labels? (schema ++ "." ++ dataType) =
      some labels := hlabels
    simp [hfirst]

/-! ## Tables and views -/

/-- The tables and views that some statements create under plain names are listed by these names:
the table of each definition, and each view that can be made of the tables and views before it. -/
structure ListsPlainNames (s : Settings) (options : Options) (statements : List Sql.Statement) :
    Prop where
  tables : ∀ (i : Nat) (d : Sql.TableDefinition) (name : String),
    (statements.filterMap Scope.definition?)[i]? = some d → Scope.plainPath d.name = name →
    PlainName name →
    ∃ t, (s.database statements).tables[i]? = some t ∧ t.name = name ∧
      ListedUnder (.ofDialect s.dialect) options (s.database statements) t
        ((s.context options statements).casedName name)
  views : ∀ (before : List Sql.Projection) (p : Sql.Projection) (after : List Sql.Projection)
    (v : Table) (name : String),
    statements.filterMap Scope.projection? = before ++ p :: after →
    (s.scope statements).view? (before.foldl (s.scope statements).addView
      ((s.scope statements).commentedTables (statements.filterMap Scope.definition?)
        (statements.filterMap Scope.comment?))) p = some v →
    Spells p.name name → PlainName name →
    v ∈ (s.database statements).tables ∧ v.name = name ∧
      ListedUnder (.ofDialect s.dialect) options (s.database statements) v
        ((s.context options statements).casedName name)

/-- A table that is known by a plain name is listed by it. -/
theorem listedUnder_casedName (hoptions : s.options = .ok options) {t : Table}
    (ht : t ∈ (s.database statements).tables) {text name : String} (hname : PlainName name)
    (hspells : Spells text name) (hkey : t.key = (s.scope statements).qualified text) :
    t.name = name ∧ ListedUnder (.ofDialect s.dialect) options (s.database statements) t
      ((s.context options statements).casedName name) := by
  have hread : (s.scope statements).qualified text = { schema := s.schemaOfNames, name } :=
    hname.read_of_spells hspells s.schemaOfNames
  rw [hread] at hkey
  obtain ⟨hschema, htname⟩ : t.schema = s.schemaOfNames ∧ t.name = name :=
    ⟨congrArg QualifiedName.schema hkey, congrArg QualifiedName.name hkey⟩
  have hidentifier : (s.context options statements).tableIdentifier t =
      (s.context options statements).casedName name := by
    rw [Context.tableIdentifier, Context.plainIdentifier, hschema, htname,
      qualify_schemaOfNames hoptions]
  exact ⟨htname, hidentifier ▸ listedUnder_tableIdentifier (.ofDialect s.dialect) options ht⟩

/-- The tables and views under plain names are listed by these names. -/
theorem listsPlainNames (hoptions : s.options = .ok options) :
    s.ListsPlainNames options statements where
  tables i d name hd hpath hname := by
    obtain ⟨t, ht, hdeclared⟩ :=
      Database.exists_table_of_definition s.dialect s.schemaOfNames hd
    refine ⟨t, ht, listedUnder_casedName hoptions (List.mem_of_getElem? ht) hname (.inl hpath) ?_⟩
    exact (congrArg (·.1.1) hdeclared).trans (congrArg (·.1) (Scope.heading_table d))
  views before p after v name hsplit hv hspells hname := by
    have hmem : v ∈ (s.database statements).tables := by
      rw [database, Database.tables_ofStatements, hsplit]
      exact Scope.mem_foldl_addView hv
    exact ⟨hmem, listedUnder_casedName hoptions hmem hname hspells (Scope.key_of_view? hv)⟩

/-! ## Keys of enums -/

/-- The enum of a type is looked up under the key of an enum: in small letters, the full name of the
enum is that of the type in small letters. -/
def HasKeyOf (s : Settings) (typeName enumName : String) : Prop :=
  Unicode.lowercase (s.fullName (Unicode.lowercase typeName)) =
    Unicode.lowercase (s.fullName enumName)

instance (s : Settings) (typeName enumName : String) : Decidable (s.HasKeyOf typeName enumName) :=
  inferInstanceAs (Decidable (_ = _))

/-- A name without a schema stands for that name in the schema of such names. -/
theorem fullName_of_some {schema : String} (h : s.schemaOfNames = some schema) (name : String) :
    s.fullName name = schema ++ "." ++ name := by
  simp [fullName, QualifiedName.text, h]

/-- Where there is no schema for such names, a name stands for itself. -/
theorem fullName_of_none (h : s.schemaOfNames = none) (name : String) : s.fullName name = name := by
  simp [fullName, QualifiedName.text, h]

/-- Without a capital sigma, names that differ in case only have one key. -/
theorem hasKeyOf_of_noSigma {typeName enumName : String}
    (hsame : Unicode.lowercase typeName = Unicode.lowercase enumName)
    (hsigma : 'Σ' ∉ (s.fullName enumName).toList) : s.HasKeyOf typeName enumName := by
  unfold HasKeyOf
  cases h : s.schemaOfNames with
  | none => rw [fullName_of_none h, fullName_of_none h, Unicode.lowercase_lowercase, hsame]
  | some schema =>
    rw [fullName_of_some h, String.toList_append, List.mem_append, not_or] at hsigma
    obtain ⟨hfront, hname⟩ := hsigma
    rw [fullName_of_some h, fullName_of_some h,
      Unicode.lowercase_append hfront (Unicode.sigma_notMem_lowercase typeName),
      Unicode.lowercase_append hfront hname, Unicode.lowercase_lowercase, hsame]

/-! ## Columns of enums -/

/-- The type of the column at place `k` of the table definition at place `i` is written as a text
that spells the name of an enum, in any letter case, and the enum was last created with some labels,
under a name without a schema. No domain and no other type of the dialect goes by that name. -/
structure EnumColumn (s : Settings) (statements : List Sql.Statement) (labels : List Sql.Name)
    (i k : Nat) (enumName typeName text : String) : Prop where
  created : ∃ before path after, statements = before ++ .type path (.enum labels) :: after ∧
    Sql.renderPath path ≠ "" ∧ Spells (Sql.renderPath path) enumName ∧
    ∀ later ∈ after, ∀ e ∈ s.names.enum? later,
      Unicode.lowercase e.1 ≠ Unicode.lowercase (s.fullName enumName)
  written : ∃ d c, (statements.filterMap Scope.definition?)[i]? = some d ∧
    d.columns[k]? = some c ∧ c.type.render = text
  spells : Spells text typeName
  plainEnum : PlainName enumName
  plainType : PlainName typeName
  sameName : Unicode.lowercase typeName = Unicode.lowercase enumName
  noAlias : CatalogType.canonicalName s.dialect (Unicode.lowercase typeName) =
    (Unicode.lowercase typeName, false)
  noDomain : ∀ st ∈ statements, ∀ e ∈ s.names.domain? st,
    e.1 ≠ Unicode.lowercase (s.fullName enumName)

/-- The column at place `k` of the table at place `i` has the labels of an enum. -/
def FindsEnum (s : Settings) (options : Options) (statements : List Sql.Statement)
    (labels : List Sql.Name) (i k : Nat) : Prop :=
  ∃ t c, (s.database statements).tables[i]? = some t ∧ t.columns[k]? = some c ∧
    (s.context options statements).findEnum? c (Unicode.lowercase c.dataType) =
      some (Enums.sorted (Scope.enumLabels labels))

/-- A plain name stands for the name behind the schema of names without one. -/
theorem text_qualified_of_spells {text name : String} (hname : PlainName name)
    (hspells : Spells text name) : (s.names.qualified text).text = s.fullName name := by
  rw [Scope.qualified, hname.read_of_spells hspells]
  rfl

namespace EnumColumn

variable {labels : List Sql.Name} {i k : Nat} {enumName typeName text : String}

/-- The enum of a column is found under the key that its type has. -/
theorem labels?_eq (h : s.EnumColumn statements labels i k enumName typeName text)
    (htype : SpellsType text typeName) (hkey : s.HasKeyOf typeName enumName) :
    (s.database statements).enums.labels? (s.fullName (Unicode.lowercase typeName)) =
      some (Enums.sorted (Scope.enumLabels labels)) := by
  obtain ⟨before, path, after, rfl, hne, hspells, hlast⟩ := h.created
  -- in small letters the two names are one, and so both of them have no blanks
  have hname : ∀ c ∈ enumName.toList, Unicode.isBlank c = false :=
    Unicode.noBlank_lowercase_iff.mp
      (h.sameName ▸ Unicode.noBlank_lowercase_iff.mpr htype.noBlank)
  have henum : s.names.enum? (.type path (.enum labels)) =
      some (s.fullName enumName, Scope.enumLabels labels) := by
    rw [Scope.enum?_type labels hne (hspells.noBlank hname),
      text_qualified_of_spells h.plainEnum hspells]
  exact Database.labels?_ofStatements henum hlast hkey

/-- The type of the column is read as the name of the enum in small letters. -/
theorem resolve_eq (h : s.EnumColumn statements labels i k enumName typeName text)
    (htype : SpellsType text typeName) (hkey : s.HasKeyOf typeName enumName) :
    (s.scope statements).resolve text = { name := Unicode.lowercase typeName } := by
  refine Scope.resolve_of_spells htype h.noAlias ?_
  have hqualified : ((s.scope statements).qualified (Unicode.lowercase typeName)).text =
      s.fullName (Unicode.lowercase typeName) :=
    text_qualified_of_spells htype.lowercase.plain (.inl rfl)
  rw [hqualified]
  refine Scope.get?_domains_withDomains fun st hst domain hdomain heq => ?_
  refine h.noDomain st hst domain hdomain ?_
  rw [← Scope.lowercase_of_domain? hdomain, heq]
  exact hkey

/-- A column whose type is read as the name of an enum has the labels of that enum. -/
theorem findsEnum (h : s.EnumColumn statements labels i k enumName typeName text)
    (hoptions : s.options = .ok options) (hdialect : s.dialect ≠ .sqlite)
    (htype : SpellsType text typeName) (hkey : s.HasKeyOf typeName enumName) :
    s.FindsEnum options statements labels i k := by
  obtain ⟨d, c, hd, hc, htext⟩ := h.written
  obtain ⟨t, column, ht, hcolumn, hdeclared⟩ :=
    Database.exists_column_of_definition hdialect s.schemaOfNames hd hc
  have hplain : ((s.scope statements).plainColumn c).declared =
      (c.name.text, Unicode.lowercase typeName, none) := by
    rw [Scope.declared_plainColumn (htext ▸ htype.noParenthesis_text), htext,
      h.resolve_eq htype hkey]
  obtain ⟨-, hdataType, hschema⟩ : column.name = c.name.text ∧
      column.dataType = Unicode.lowercase typeName ∧ column.dataTypeSchema = none := by
    simpa [Column.declared] using hdeclared.trans hplain
  refine ⟨t, column, ht, hcolumn, ?_⟩
  rw [hdataType, Unicode.lowercase_lowercase]
  exact findEnum?_eq_some hoptions hschema (h.labels?_eq htype hkey)

end EnumColumn

/-- The schema that names without one get is left out again: tables and views with plain names are
listed by them, and outside SQLite a column whose type is written as the name of an enum has its
labels, if the type has the key of the enum and holds nothing that data types are read without.
Names that differ in case only have one key if there is no capital sigma in them. -/
theorem unqualified_names_agree (s : Settings) {options : Options}
    (hoptions : s.options = .ok options) (statements : List Sql.Statement) :
    s.ListsPlainNames options statements ∧
      (s.dialect ≠ .sqlite → ∀ labels i k enumName typeName text,
        s.EnumColumn statements labels i k enumName typeName text → SpellsType text typeName →
          s.HasKeyOf typeName enumName → s.FindsEnum options statements labels i k) ∧
      ∀ enumName typeName, Unicode.lowercase typeName = Unicode.lowercase enumName →
        'Σ' ∉ (s.fullName enumName).toList → s.HasKeyOf typeName enumName := by
  refine ⟨listsPlainNames hoptions, ?_, fun _ _ => hasKeyOf_of_noSigma⟩
  intro hdialect labels i k enumName typeName text hcolumn htype hkey
  exact hcolumn.findsEnum hoptions hdialect htype hkey

/-! ## An enum and a column -/

/-- The labels `a` and `b`. -/
def twoLabels : List Sql.Name :=
  [{ text := "a", quote := some '\'' }, { text := "b", quote := some '\'' }]

/-- An enum, and a table `log_entry` with a column whose type is written as a name. -/
def declareAndUse (enum type : Sql.Name) : List Sql.Statement :=
  [.type [enum] (.enum twoLabels), .table
    { orReplace := false, kind := [], ifNotExists := false, name := [{ text := "log_entry" }]
      columns := [{ name := { text := "c" }, type := .named [type] [], options := [] }]
      constraints := [], model := none, clauses := [], query := none }]

/-- A column whose type spells the name of an enum before it is one of the enum. -/
theorem enumColumn_declareAndUse {enum type : Sql.Name} {enumName typeName : String}
    (hne : enum.render ≠ "") (henum : Spells enum.render enumName)
    (htype : Spells type.render typeName) (plainEnum : PlainName enumName)
    (plainType : PlainName typeName)
    (hsame : Unicode.lowercase typeName = Unicode.lowercase enumName)
    (noAlias : CatalogType.canonicalName s.dialect (Unicode.lowercase typeName) =
      (Unicode.lowercase typeName, false)) :
    s.EnumColumn (declareAndUse enum type) twoLabels 0 0 enumName typeName type.render where
  created := ⟨[], [enum], _, rfl, hne, henum, by simp [Scope.enum?]⟩
  written := ⟨_, _, rfl, rfl, by simp [Sql.DataType.render, Sql.renderPath]⟩
  spells := htype
  plainEnum := plainEnum
  plainType := plainType
  sameName := hsame
  noAlias := noAlias
  noDomain := by simp [declareAndUse, Scope.domain?]

/-- With a default schema in capital letters, an enum that is created as `MOOD` is found for a type
that is written as `"Mood"`, and the table is listed in camel case without the schema. -/
theorem unqualified_names_of_mood :
    let s : Settings := { camelCase := true, defaultSchemas := ["App"] }
    let options : Options := { camelCase := true, defaultSchemas := some ["App"] }
    let statements := declareAndUse { text := "MOOD" } { text := "Mood", quote := some '"' }
    s.options = .ok options ∧ s.FindsEnum options statements twoLabels 0 0 ∧
      ∃ t, (s.database statements).tables[0]? = some t ∧ t.name = "log_entry" ∧
        ListedUnder .postgres options (s.database statements) t "logEntry" := by
  intro s options statements
  have hoptions : s.options = .ok options := rfl
  obtain ⟨hlists, henums, hkeys⟩ := unqualified_names_agree s hoptions statements
  have henum : PlainName "MOOD" := by decide +kernel
  have htype : SpellsType "\"Mood\"" "Mood" := by
    have hblank : ("Mood".toList.all fun c => !Unicode.isBlank c) = true := by decide +kernel
    exact ⟨by decide +kernel, .inr ⟨'"', by decide, by decide⟩, by simpa using hblank,
      by decide, by decide⟩
  have hcolumn : s.EnumColumn statements twoLabels 0 0 "MOOD" "Mood" "\"Mood\"" :=
    enumColumn_declareAndUse (by decide) (.inl rfl) htype.spells henum htype.plain
      (by decide +kernel) (by decide +kernel)
  refine ⟨hoptions, henums (by decide) _ _ _ _ _ _ hcolumn htype ?_, ?_⟩
  · exact hkeys _ _ hcolumn.sameName (by decide +kernel)
  · obtain ⟨t, ht, hname, hlisted⟩ := hlists.tables 0 _ "log_entry" rfl rfl
      (by decide +kernel)
    have hcased : (s.context options statements).casedName "log_entry" = "logEntry" := by
      decide +kernel
    exact ⟨t, ht, hname, hcased ▸ hlisted⟩

/-- The column that these statements declare, by its data type. -/
def usingColumn (dataType : String) : Column :=
  { name := "c", dataType, isNullable := true }

/-- The table that these statements declare, by the data type of its column. -/
def usingTable (dataType : String) : Table :=
  { schema := some "public", name := "log_entry", columns := [usingColumn dataType] }

/-- A column whose type is under no key of an enum finds none. -/
theorem not_findsEnum_of_none {labels : List Sql.Name} {dataType : String}
    (htables : (s.database statements).tables = [usingTable dataType])
    (hnone : (s.context options statements).findEnum? (usingColumn dataType)
      (Unicode.lowercase dataType) = none) :
    ¬s.FindsEnum options statements labels 0 0 := by
  rintro ⟨t, c, ht, hc, hfind⟩
  rw [htables] at ht
  cases ht
  cases hc
  rw [show (usingColumn dataType).dataType = dataType from rfl, hnone] at hfind
  cases hfind

/-- The name of an enum, even in the same letter case, is not enough for a column to get its labels:
a capital sigma behind the dot of the schema becomes another small letter than one that stands
alone, what stands in parentheses between the quotes of a type is not read, and an enum is not known
if its name has a blank. -/
theorem not_findsEnum_of_same_name :
    (let s : Settings := {}
    let statements := declareAndUse { text := "Σ" } { text := "Σ" }
    s.EnumColumn statements twoLabels 0 0 "Σ" "Σ" "Σ" ∧ SpellsType "Σ" "Σ" ∧
      ¬s.FindsEnum {} statements twoLabels 0 0) ∧
    (let s : Settings := {}
    let name : Sql.Name := { text := "level(2)", quote := some '"' }
    let statements := declareAndUse name name
    s.EnumColumn statements twoLabels 0 0 "level(2)" "level(2)" "\"level(2)\"" ∧
      s.HasKeyOf "level(2)" "level(2)" ∧ ¬s.FindsEnum {} statements twoLabels 0 0) ∧
    (let s : Settings := {}
    let name : Sql.Name := { text := "my mood", quote := some '"' }
    let statements := declareAndUse name name
    s.EnumColumn statements twoLabels 0 0 "my mood" "my mood" "\"my mood\"" ∧
      s.HasKeyOf "my mood" "my mood" ∧ ¬s.FindsEnum {} statements twoLabels 0 0) := by
  refine ⟨?_, ?_, ?_⟩
  · intro s statements
    have hname : SpellsType "Σ" "Σ" := by
      have hblank : ("Σ".toList.all fun c => !Unicode.isBlank c) = true := by decide +kernel
      exact ⟨by decide +kernel, .inl rfl, by simpa using hblank, by decide, by decide⟩
    have hcolumn : s.EnumColumn statements twoLabels 0 0 "Σ" "Σ" "Σ" :=
      enumColumn_declareAndUse (by decide) (.inl rfl) (.inl rfl) hname.plain hname.plain rfl
        (by decide +kernel)
    have htables : (s.database statements).tables = [usingTable "σ"] := by decide +kernel
    exact ⟨hcolumn, hname, not_findsEnum_of_none htables (by decide +kernel)⟩
  · intro s name statements
    have hname : PlainName "level(2)" := by decide +kernel
    have hrender : name.render = "\"level(2)\"" := by decide +kernel
    have hspells : Spells name.render "level(2)" := .inr ⟨'"', by decide, by decide +kernel⟩
    have hcolumn : s.EnumColumn statements twoLabels 0 0 "level(2)" "level(2)" "\"level(2)\"" :=
      hrender ▸ enumColumn_declareAndUse (by decide +kernel) hspells hspells hname hname rfl
        (by decide +kernel)
    have htables : (s.database statements).tables = [usingTable "level"] := by decide +kernel
    exact ⟨hcolumn, by decide +kernel, not_findsEnum_of_none htables (by decide +kernel)⟩
  · intro s name statements
    have hname : PlainName "my mood" := by decide +kernel
    have hrender : name.render = "\"my mood\"" := by decide +kernel
    have hspells : Spells name.render "my mood" := .inr ⟨'"', by decide, by decide +kernel⟩
    have hcolumn : s.EnumColumn statements twoLabels 0 0 "my mood" "my mood" "\"my mood\"" :=
      hrender ▸ enumColumn_declareAndUse (by decide +kernel) hspells hspells hname hname rfl
        (by decide +kernel)
    have htables : (s.database statements).tables = [usingTable "my mood"] := by decide +kernel
    exact ⟨hcolumn, by decide +kernel, not_findsEnum_of_none htables (by decide +kernel)⟩

end Settings

end TableTypes
