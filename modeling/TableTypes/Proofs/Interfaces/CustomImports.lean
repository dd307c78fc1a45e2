import TableTypes.Proofs.Interfaces.Collected
import TableTypes.Proofs.Interfaces.EnumLabels
import TableTypes.Proofs.Text.Cut

/-!
# Custom imports

A column that the user types by the name of a custom import gets the name that an import clause
binds: the name is collected from the override, registered as an import, and replaced in the
override by its display name. Where a helper definition has the name already, the definition is
registered in place of the import, and the column has the helper as its type.
-/

namespace TableTypes

open TypeScript SymbolTable
open TypeScript.TypeExpr (named)

/-! ## Import specs -/

/-- The module and the export that an import spec names for a local name: what stands before and
after its last number sign, or the spec itself and the local name. -/
inductive NamesExport (localName : String) : String → String → String → Prop where
  | exported {path exported : String} (h : '#' ∉ exported.toList) :
      NamesExport localName (path ++ "#" ++ exported) path exported
  | module {path : String} (h : '#' ∉ path.toList) : NamesExport localName path path localName

/-- Reading a spec gives what it names. -/
theorem namesExport_parseImportSpec (localName spec : String) :
    NamesExport localName spec (parseImportSpec localName spec).path
      ((parseImportSpec localName spec).exported.getD localName) := by
  unfold parseImportSpec
  split
  · next path exported hcut =>
    have hspec : spec = String.ofList path ++ "#" ++ String.ofList exported := by
      rw [← String.toList_inj, Text.cutLast?_eq_some hcut]
      simp
    have hexport : (if String.ofList exported = localName then none
        else some (String.ofList exported)).getD localName = String.ofList exported := by
      split
      · next h => exact h.symm
      · rfl
    dsimp only
    rw [hexport, hspec]
    exact .exported (by simpa using Text.notMem_of_cutLast? hcut)
  · next hcut => exact .module (Text.cutLast?_eq_none_iff.mp hcut)

/-! ## The clauses of a module -/

/-- The clause of an entry, if it is an import from a module. -/
def importClauseFrom? (path : String) (e : Entry Symbol) : Option ImportClause :=
  match e.symbol with
  | .imported reference =>
    if reference.path = path then some (importClause e.id e.name reference) else none
  | _ => none

/-- The clauses of a module are those of the imports from it, behind the ones that it had. -/
theorem get?_foldl_addImport (clauses : Dictionary (List ImportClause)) (path : String)
    (entries : List (Entry Symbol)) :
    ((entries.foldl addImport clauses).get? path).getD [] =
      (clauses.get? path).getD [] ++ entries.filterMap (importClauseFrom? path) := by
  induction entries generalizing clauses with
  | nil => simp
  | cons e entries ih =>
    rw [List.foldl_cons, ih, List.filterMap_cons]
    cases hsymbol : e.symbol with
    | imported reference =>
      simp only [addImport, importClauseFrom?, hsymbol, Dictionary.get?_put]
      by_cases hpath : path = reference.path
      · simp [hpath]
      · simp [hpath, Ne.symm hpath]
    | table => simp [addImport, importClauseFrom?, hsymbol]
    | definition body => simp [addImport, importClauseFrom?, hsymbol]
    | enum typeId members => simp [addImport, importClauseFrom?, hsymbol]

section

variable {profile : Profile} {options : Options} {db : Database} {t : Table} {k : ℕ} {c : Column}
  {n spec : String} {written : String → TypeExpr}

/-- A registered import has its clause in a statement for its module. -/
theorem exists_importClause_mem {id : String} {e : Entry Symbol} {reference : ModuleExport}
    (hfound : (moduleSymbols profile options db).find? id = some e)
    (hsymbol : e.symbol = .imported reference) :
    ∃ clauses, .imports reference.path clauses ∈ moduleStatements profile options db ∧
      importClause e.id e.name reference ∈ clauses := by
  have hclauses := get?_foldl_addImport [] reference.path
    (moduleSymbols profile options db).entries
  have hmem : importClause e.id e.name reference ∈
      ((importClauses (moduleSymbols profile options db)).get? reference.path).getD [] := by
    rw [importClauses_eq, hclauses]
    have he := List.mem_of_find?_eq_some hfound
    refine List.mem_append_right _ (List.mem_filterMap.mpr ⟨e, he, ?_⟩)
    simp [importClauseFrom?, hsymbol]
  cases hget : (importClauses (moduleSymbols profile options db)).get? reference.path with
  | none =>
    rw [hget] at hmem
    cases hmem
  | some clauses =>
    rw [hget] at hmem
    refine ⟨clauses, ?_, hmem⟩
    rw [moduleStatements_eq]
    exact List.mem_append_left _ (List.mem_map.mpr ⟨_, Dictionary.mem_of_get? hget, rfl⟩)

/-! ## Types that are a name -/

/-- Whether a text is a single name: letters, numbers, underscores and dollar signs. -/
def IsName (n : String) : Prop :=
  n ≠ "" ∧ ∀ c ∈ n.toList, isNameChar c = true

/-- Every identifier is a name. -/
theorem isName_of_isIdentifier (h : Naming.isIdentifier n.toList = true) : IsName n := by
  have hchar : ∀ c : Char, Naming.continuesIdentifier c = true → isNameChar c = true := by
    intro c hc
    simp only [Naming.continuesIdentifier, isNameChar, Bool.or_eq_true] at hc ⊢
    refine Or.imp_left (Or.imp_left fun halphanum => ?_) hc
    have hascii : c.toNat < 128 := by
      simp only [Char.isAlphanum, Char.isAlpha, Char.isUpper, Char.isLower, Char.isDigit,
        Bool.or_eq_true, Bool.and_eq_true, decide_eq_true_eq, UInt32.le_iff_toNat_le, Char.toNat]
        at halphanum ⊢
      grind
    rw [Unicode.isAlphanumeric, Unicode.isAlphabetic, Unicode.isNumeric, if_pos hascii,
      if_pos hascii]
    exact halphanum
  unfold Naming.isIdentifier at h
  split at h
  · cases h
  · next c rest htext =>
    rw [Bool.and_eq_true, List.all_eq_true] at h
    refine ⟨?_, fun d hd => ?_⟩
    · rintro rfl
      simp at htext
    · rw [htext] at hd
      rcases List.mem_cons.mp hd with rfl | hd
      · refine hchar d ?_
        have hd := h.1
        simp only [Naming.startsIdentifier, Naming.continuesIdentifier, Char.isAlphanum] at hd ⊢
        grind
      · exact hchar d (h.2 d hd)

/-- No name holds a colon, so none is the id of a table or an enum. -/
theorem IsName.colon_notMem (hn : IsName n) : ':' ∉ n.toList := by
  intro hmem
  exact absurd (hn.2 ':' hmem) (by decide)

/-- The letters of a name are all gathered before it is replaced. -/
theorem renameTextFrom_of_forall (symbols : Symbols) (params : List String) (dot : Bool)
    (word : List Char) {text : List Char} (h : ∀ c ∈ text, isNameChar c = true) :
    renameTextFrom symbols params dot word text =
      renameTextFrom symbols params dot (text.reverse ++ word) [] := by
  induction text generalizing word with
  | nil => rfl
  | cons c rest ih =>
    have hc : renameTextFrom symbols params dot word (c :: rest) =
        renameTextFrom symbols params dot (c :: word) rest := by
      rw [renameTextFrom, if_pos (h c (by simp))]
    rw [hc, ih _ fun d hd => h d (List.mem_cons_of_mem c hd)]
    simp

/-- A text that is a name is replaced like a type of this name. -/
theorem renameText_of_isName {symbols : Symbols} {name : String} (hn : IsName n)
    (hname : symbols.rename? [] n = some name) : renameText symbols [] n = name := by
  rw [renameText, renameTextFrom_of_forall symbols [] false [] hn.2, List.append_nil,
    renameTextFrom]
  simp [hn.1, renameWord, hname]

/-- A type that is only a name, written as type text or as a named type. -/
def WritesName (written : String → TypeExpr) : Prop :=
  written = TypeExpr.raw ∨ written = named

/-- A type that is written as a name refers to that name alone. -/
theorem WritesName.references (hwritten : WritesName written) (n : String) :
    (written n).references = [n] := by
  rcases hwritten with rfl | rfl <;> rfl

/-- In a type that is only a name, the name is replaced by its display name. -/
theorem WritesName.rename {symbols : Symbols} {name : String} (hwritten : WritesName written)
    (hn : IsName n) (hname : symbols.rename? [] n = some name) :
    (written n).rename symbols [] = written name := by
  rcases hwritten with rfl | rfl
  · rw [TypeExpr.rename, renameText_of_isName hn hname]
  · rw [TypeExpr.rename, if_neg (by simp), hname, Option.getD_some]

/-- Different names are written differently. -/
theorem WritesName.injective (hwritten : WritesName written) : Function.Injective written := by
  intro a b hab
  rcases hwritten with rfl | rfl
  · exact TypeExpr.raw.inj hab
  · exact (TypeExpr.name.inj hab).1

/-! ## Columns typed by the user -/

/-- The type that the user gives a column is a property of its table's interface. -/
theorem exists_property_of_findOverride? {type : TypeExpr} (ht : t ∈ db.tables)
    (hc : t.columns[k]? = some c)
    (hoverride : ((moduleContext profile options db).findOverride? t c).map Override.expression =
      some type) :
    ∃ i ∈ moduleInterfaces profile options db, moduleTableName? profile options db t = some i.name ∧
      ∃ p, i.members[k]? = some p ∧ p.value = type := by
  obtain ⟨i, hi, hof⟩ := exists_interfaceOf profile options ht
  obtain ⟨p, hp, hproperty⟩ := exists_getElem?_of_forall₂ hof.members hc
  obtain ⟨symbols, hvalue⟩ := hproperty.value
  obtain ⟨o, hfound, rfl⟩ := Option.map_eq_some_iff.mp hoverride
  rw [Context.columnType, hfound] at hvalue
  exact ⟨i, hi, hof.name, p, hp, hvalue⟩

/-- The type that the user gives a column is its type in the file, with display names put in. -/
theorem typesColumn_of_findOverride? {type : TypeExpr} (ht : t ∈ db.tables)
    (hc : t.columns[k]? = some c)
    (hoverride : ((moduleContext profile options db).findOverride? t c).map Override.expression =
      some type) :
    TypesColumn profile options db t k (type.rename (moduleSymbols profile options db) []) := by
  obtain ⟨o, hfound, rfl⟩ := Option.map_eq_some_iff.mp hoverride
  exact typesColumn_of_columnType ht hc fun symbols => by rw [Context.columnType, hfound]

/-- What the user's type for a column refers to is registered as what the library has for it. -/
theorem exists_find?_of_findOverride? {type : TypeExpr} (ht : t ∈ db.tables)
    (hc : t.columns[k]? = some c)
    (hoverride : ((moduleContext profile options db).findOverride? t c).map Override.expression =
      some type) (hn : n ∈ type.references) (hcolon : ':' ∉ n.toList) {symbol : Symbol}
    (hknown : (moduleContext profile options db).library.symbol? n = some symbol) :
    ∃ e, (moduleSymbols profile options db).find? n = some e ∧ e.symbol = symbol := by
  obtain ⟨i, hi, -, p, hp, rfl⟩ := exists_property_of_findOverride? ht hc hoverride
  have hcontains := contains_moduleSymbols_of_mem hi (List.mem_of_getElem? hp) hn
    (Library.knows_iff.mpr ⟨symbol, hknown⟩)
  obtain ⟨e, hfound⟩ := Option.isSome_iff_exists.mp hcontains
  have hsymbol := symbol?_of_colon_notMem hcolon hfound
  rw [hknown] at hsymbol
  exact ⟨e, hfound, (Option.some.inj hsymbol).symm⟩

/-- A column that the user types by a name of the library has the display name of what the library
has for it. -/
theorem exists_typesColumn_of_symbol? (hn : IsName n) (hwritten : WritesName written)
    (ht : t ∈ db.tables) (hc : t.columns[k]? = some c)
    (hoverride : ((moduleContext profile options db).findOverride? t c).map Override.expression =
      some (written n)) {symbol : Symbol}
    (hknown : (moduleContext profile options db).library.symbol? n = some symbol) :
    ∃ e, (moduleSymbols profile options db).find? n = some e ∧ e.symbol = symbol ∧
      TypesColumn profile options db t k (written e.name) := by
  have hreference : n ∈ (written n).references := by
    rw [hwritten.references]
    exact List.mem_singleton.mpr rfl
  obtain ⟨e, hfound, hsymbol⟩ :=
    exists_find?_of_findOverride? ht hc hoverride hreference hn.colon_notMem hknown
  have hrenamed : e.symbol.isRenamed = true := hsymbol ▸ Library.isRenamed_of_symbol? hknown
  have htypes := typesColumn_of_findOverride? ht hc hoverride
  have hname : (moduleSymbols profile options db).rename? [] n = some e.name := by
    simp [rename?, hfound, hrenamed]
  rw [hwritten.rename hn hname] at htypes
  exact ⟨e, hfound, hsymbol, htypes⟩

/-- A column has one type if no name is bound twice. -/
theorem TypesColumn.unique {type other : TypeExpr}
    (hbound : (boundNames (moduleStatements profile options db)).Nodup)
    (h : TypesColumn profile options db t k type)
    (h' : TypesColumn profile options db t k other) : type = other := by
  obtain ⟨name, members, p, hname, hmem, hp, rfl⟩ := h
  obtain ⟨name', members', p', hname', hmem', hp', rfl⟩ := h'
  obtain rfl := Option.some.inj (hname.symm.trans hname')
  have hself (members : Members) :
      name ∈ (Statement.exports (.interface name members)).bound := List.mem_singleton.mpr rfl
  have hcount := List.count_eq_one_of_mem hbound (List.mem_flatMap.mpr ⟨_, hmem, hself members⟩)
  have heq := eq_of_count_boundNames hcount hmem hmem' (hself _) (hself _)
  simp only [Statement.exports.injEq, Declaration.interface.injEq, true_and] at heq
  rw [heq, hp] at hp'
  rw [Option.some.inj hp']

/-- The library of a file has the custom imports of the user. -/
theorem get?_imports_moduleContext (hkeys : options.customImports.keys.Nodup)
    (hspec : options.customImports.get? n = some spec) :
    (moduleContext profile options db).library.imports.get? n = some (parseImportSpec n spec) := by
  have hnames := hkeys
  rw [← Dictionary.keys_map options.customImports parseImportSpec] at hnames
  refine (Dictionary.get?_override hnames n).trans ?_
  rw [Dictionary.get?_map, hspec]
  rfl

/-- The library of a file has a custom import under its name unless a helper definition has it. -/
theorem symbol?_of_customImport (hkeys : options.customImports.keys.Nodup)
    (hspec : options.customImports.get? n = some spec)
    (hfree : profile.library.definitions.get? n = none) :
    (moduleContext profile options db).library.symbol? n =
      some (.imported (parseImportSpec n spec)) := by
  have hnone : (moduleContext profile options db).library.definitions.get? n = none := hfree
  rw [Library.symbol?, hnone, get?_imports_moduleContext hkeys hspec]
  rfl

/-! ## Imports that are honoured -/

/-- In the file for a database, a clause imports the export that a spec names for a local name, and
a column has the name that the clause binds as its type. -/
def HonoursImport (profile : Profile) (options : Options) (db : Database) (t : Table) (k : ℕ)
    (written : String → TypeExpr) (n spec : String) : Prop :=
  ∃ path clauses clause, .imports path clauses ∈ moduleStatements profile options db ∧
    clause ∈ clauses ∧ NamesExport n spec path clause.name ∧
    TypesColumn profile options db t k (written clause.bound)

/-- A column that is typed by an alias has no import honoured if no name is bound twice. -/
theorem not_honoursImport_of_typeAlias {name : String} {d : Definition}
    (hwritten : WritesName written)
    (hbound : (boundNames (moduleStatements profile options db)).Nodup)
    (halias : .exports (.typeAlias name d) ∈ moduleStatements profile options db)
    (htypes : TypesColumn profile options db t k (written name)) :
    ¬HonoursImport profile options db t k written n spec := by
  rintro ⟨path, clauses, clause, hmem, hclause, -, htypes'⟩
  obtain rfl := hwritten.injective (htypes.unique hbound htypes')
  have hself : clause.bound ∈ (Statement.exports (.typeAlias clause.bound d)).bound :=
    List.mem_singleton.mpr rfl
  have hcount := List.count_eq_one_of_mem hbound (List.mem_flatMap.mpr ⟨_, halias, hself⟩)
  have heq := eq_of_count_boundNames hcount halias hmem hself (List.mem_map_of_mem hclause)
  cases heq

/-- Where no helper definition has the name of a custom import, the import is honoured in each
column that the user types by this name. Where a definition has it, the column is typed by an alias
for this definition, and if no name is bound twice, the import is not honoured. -/
theorem honoursImport_or_typed_by_definition (hkeys : options.customImports.keys.Nodup)
    (hspec : options.customImports.get? n = some spec) (hn : IsName n)
    (hwritten : WritesName written) (ht : t ∈ db.tables) (hc : t.columns[k]? = some c)
    (hoverride : ((moduleContext profile options db).findOverride? t c).map Override.expression =
      some (written n)) :
    (profile.library.definitions.get? n = none →
      HonoursImport profile options db t k written n spec) ∧
    (∀ d, profile.library.definitions.get? n = some d →
      (∃ name, .exports (.typeAlias name (d.rename (moduleSymbols profile options db))) ∈
          moduleStatements profile options db ∧
        TypesColumn profile options db t k (written name)) ∧
      ((boundNames (moduleStatements profile options db)).Nodup →
        ¬HonoursImport profile options db t k written n spec)) := by
  refine ⟨fun hfree => ?_, fun d hd => ?_⟩
  · have hknown : (moduleContext profile options db).library.symbol? n =
        some (.imported (parseImportSpec n spec)) := by
      have hnone : (moduleContext profile options db).library.definitions.get? n = none := hfree
      rw [Library.symbol?, hnone, get?_imports_moduleContext hkeys hspec]
      rfl
    obtain ⟨e, hfound, hsymbol, htypes⟩ :=
      exists_typesColumn_of_symbol? hn hwritten ht hc hoverride hknown
    obtain ⟨clauses, hmem, hclause⟩ := exists_importClause_mem hfound hsymbol
    refine ⟨_, clauses, _, hmem, hclause, ?_, by rwa [bound_importClause]⟩
    rw [id_of_find? hfound]
    exact namesExport_parseImportSpec n spec
  · obtain ⟨e, hfound, hsymbol, htypes⟩ := exists_typesColumn_of_symbol? hn hwritten ht hc hoverride
      (Library.symbol?_of_definition hd)
    have halias := typeAlias_mem_moduleStatements hfound hsymbol
    exact ⟨⟨e.name, halias, htypes⟩, fun hbound =>
      not_honoursImport_of_typeAlias hwritten hbound halias htypes⟩

end

/-- A column typed by a name of the user's own has the export that the spec gives this name. -/
theorem honoursImport_of_money :
    let c : Column := { name := "price", dataType := "numeric" }
    let t : Table := { schema := none, name := "t", columns := [c] }
    let db : Database := { tables := [t], enums := [] }
    let options : Options :=
      { overrides := [("t.price", .text "Money")]
        customImports := [("Money", "./types#Amount")] }
    HonoursImport .postgres options db t 0 .raw "Money" "./types#Amount" := by
  intro c t db options
  exact (honoursImport_or_typed_by_definition (by decide) rfl
    (isName_of_isIdentifier (by decide)) (.inl rfl) (List.mem_singleton.mpr rfl) rfl rfl).1 rfl

/-- A custom import that is called like a helper type is not honoured. -/
theorem not_honoursImport_of_json :
    let c : Column := { name := "doc", dataType := "jsonb" }
    let t : Table := { schema := none, name := "t", columns := [c] }
    let db : Database := { tables := [t], enums := [] }
    let options : Options :=
      { overrides := [("t.doc", .text "Json")], customImports := [("Json", "./types")] }
    options.customImports.keys.Nodup ∧ options.customImports.get? "Json" = some "./types" ∧
    ((moduleContext .postgres options db).findOverride? t c).map Override.expression =
      some (.raw "Json") ∧
    ¬HonoursImport .postgres options db t 0 .raw "Json" "./types" := by
  intro c t db options
  have hoverride : ((moduleContext .postgres options db).findOverride? t c).map
      Override.expression = some (.raw "Json") := rfl
  have hwritten : WritesName TypeExpr.raw := .inl rfl
  have hbound : (boundNames (moduleStatements .postgres options db)).Nodup := by
    have hnames : boundNames (moduleStatements .postgres options db) = ["ColumnType", "Json",
        "JsonArray", "JsonObject", "JsonPrimitive", "JsonValue", "T", "DB"] := by cbv
    rw [hnames]
    decide
  obtain ⟨d, hd⟩ : ∃ d, (moduleContext .postgres options db).library.definitions.get? "Json" =
      some d := ⟨_, rfl⟩
  obtain ⟨e, hfound, hsymbol, htypes⟩ := exists_typesColumn_of_symbol? (k := 0)
    (isName_of_isIdentifier (by decide)) hwritten (List.mem_singleton.mpr rfl) rfl hoverride
    (Library.symbol?_of_definition hd)
  have halias := typeAlias_mem_moduleStatements hfound hsymbol
  exact ⟨by decide, rfl, hoverride, not_honoursImport_of_typeAlias hwritten hbound halias htypes⟩

end TableTypes
