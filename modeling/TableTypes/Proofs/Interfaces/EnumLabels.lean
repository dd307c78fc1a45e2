import TableTypes.Proofs.Interfaces.BoundNames
import TableTypes.Proofs.Interfaces.Renaming

/-!
# The labels of enums

The labels of an enum are looked up for each column that has it as its type, but the enum is
registered once, by the first of these columns. Main statement: the type of a column stands for the
column's own labels exactly when the first column of that type has the same ones and nothing else is
declared under the name of the enum. Enums of one name in two schemas that both go without saying
break this.
-/

namespace TableTypes

open TypeScript SymbolTable
open TypeScript.TypeExpr (named unionOf)

/-! ## The first column of an enum -/

namespace Context

variable {ctx : Context}

/-- The labels that a column registers an enum with, if that enum declares its type. -/
def declaredLabels? (ctx : Context) (typeId : String) (t : Table) (c : Column) :
    Option (List String) :=
  match ctx.declaringEnum? t c with
  | some (declared, labels) => if declared = typeId then some labels else none
  | none => none

/-- The labels that the first column of some tables registers an enum with. -/
def firstLabels? (ctx : Context) (typeId : String) (tables : List Table) : Option (List String) :=
  tables.findSome? fun t => t.columns.findSome? (ctx.declaredLabels? typeId t)

/-- Typing a column registers an enum if it is new and declares the column's type. -/
theorem get?_columnType {typeId : String} (hfree : ¬ctx.library.Knows (enumSymbolId typeId))
    (symbols : Symbols) (t : Table) (c : Column) :
    (ctx.columnType symbols t c).2.get? (enumSymbolId typeId) =
      (symbols.get? (enumSymbolId typeId)).or
        ((ctx.declaredLabels? typeId t c).map (ctx.enumSymbol typeId)) := by
  cases henum : ctx.declaringEnum? t c with
  | none =>
    obtain ⟨names, others, hcolumn⟩ := columnType_of_no_declaringEnum henum symbols
    rw [hcolumn, Library.get?_collectNames_of_not_knows hfree,
      Library.get?_collectNames_of_not_knows hfree]
    simp [declaredLabels?, henum]
  | some declared =>
    obtain ⟨declared, labels⟩ := declared
    rw [columnType_of_declaringEnum henum, Library.collect,
      Library.get?_collectNames_of_not_knows hfree, get?_add]
    by_cases hid : declared = typeId
    · subst hid
      simp [declaredLabels?, henum, enumRegistration]
    · have hne : enumSymbolId declared ≠ enumSymbolId typeId := fun h =>
        hid (enumSymbolId_injective h)
      simp [declaredLabels?, henum, enumRegistration, hid, hne]

/-- Of some columns the first that an enum declares registers it. -/
theorem get?_columnMembers {typeId : String} (hfree : ¬ctx.library.Knows (enumSymbolId typeId))
    (symbols : Symbols) (t : Table) (columns : List Column) :
    (ctx.columnMembers t symbols columns).2.get? (enumSymbolId typeId) =
      (symbols.get? (enumSymbolId typeId)).or
        ((columns.findSome? (ctx.declaredLabels? typeId t)).map (ctx.enumSymbol typeId)) := by
  induction columns generalizing symbols with
  | nil => simp [columnMembers]
  | cons c columns ih =>
    have hrest := ih (ctx.columnType symbols t c).2
    rw [get?_columnType hfree, Option.or_assoc] at hrest
    rw [columnMembers, List.findSome?_cons]
    refine hrest.trans ?_
    cases ctx.declaredLabels? typeId t c <;> simp

/-- Of all columns of some tables the first that an enum declares registers it. -/
theorem get?_tableInterfaces {typeId : String} (hfree : ¬ctx.library.Knows (enumSymbolId typeId))
    (symbols : Symbols) (tables : List Table) :
    (ctx.tableInterfaces symbols tables).2.get? (enumSymbolId typeId) =
      (symbols.get? (enumSymbolId typeId)).or
        ((ctx.firstLabels? typeId tables).map (ctx.enumSymbol typeId)) := by
  induction tables generalizing symbols with
  | nil => simp [tableInterfaces, firstLabels?]
  | cons t tables ih =>
    have htable : (symbols.add (ctx.tableRegistration t)).get? (enumSymbolId typeId) =
        symbols.get? (enumSymbolId typeId) := by
      have hne : (ctx.tableRegistration t).id ≠ enumSymbolId typeId :=
        tableSymbolId_ne_enumSymbolId _ _
      rw [get?_add, if_neg hne, Option.or_none]
    have hrest := ih (ctx.columnMembers t (symbols.add (ctx.tableRegistration t)) t.columns).2
    rw [get?_columnMembers hfree, htable, Option.or_assoc] at hrest
    rw [firstLabels?, List.findSome?_cons]
    refine hrest.trans ?_
    cases t.columns.findSome? (ctx.declaredLabels? typeId t) <;> simp [firstLabels?]

/-- If an enum declares the type of a column, some column is the first. -/
theorem exists_firstLabels {tables : List Table} {t : Table} (ht : t ∈ tables) {c : Column}
    (hc : c ∈ t.columns) {typeId : String} {labels : List String}
    (henum : ctx.declaringEnum? t c = some (typeId, labels)) :
    ∃ first, ctx.firstLabels? typeId tables = some first := by
  refine Option.isSome_iff_exists.mp (List.findSome?_isSome_iff.mpr ⟨t, ht, ?_⟩)
  exact List.findSome?_isSome_iff.mpr ⟨c, hc, by simp [declaredLabels?, henum]⟩

end Context

/-- The symbol of an enum in a file has the labels of the first column that the enum declares. -/
theorem get?_moduleSymbols {profile : Profile} {options : Options} {db : Database} {typeId : String}
    (hfree : ¬(moduleContext profile options db).library.Knows (enumSymbolId typeId)) :
    (moduleSymbols profile options db).get? (enumSymbolId typeId) =
      ((moduleContext profile options db).firstLabels? typeId
        (db.tables.mergeSort Table.precedes)).map
          ((moduleContext profile options db).enumSymbol typeId) := by
  rw [moduleSymbols, Context.get?_tableInterfaces hfree]
  simp [get?]

/-! ## What declares labels -/

/-- The values of the members of an enum are its labels in order. -/
theorem map_value_enumMembersFrom (keys : SymbolTable Unit) (labels : List String) :
    (enumMembersFrom keys labels).map (·.value) = labels.map .text := by
  induction labels generalizing keys with
  | nil => rfl
  | cons label labels ih =>
    rw [enumMembersFrom, List.map_cons, List.map_cons]
    exact congrArg _ (ih _)

/-- Different labels have different unions. -/
theorem unionOf_text_injective {labels others : List String}
    (h : unionOf (labels.map TypeExpr.text) = unionOf (others.map TypeExpr.text)) :
    labels = others := by
  have htext : Function.Injective TypeExpr.text := fun a b hab => by simpa using hab
  match labels, others, h with
  | [], [], _ => rfl
  | [a], [b], h => simpa [unionOf] using h
  | a :: b :: labels, c :: d :: others, h =>
    have hmembers : (a :: b :: labels).map TypeExpr.text = (c :: d :: others).map TypeExpr.text := by
      simpa [unionOf] using h
    exact List.map_injective_iff.mpr htext hmembers
  | [], [_], h => simp [unionOf] at h
  | [], _ :: _ :: _, h => simp [unionOf] at h
  | [_], [], h => simp [unionOf] at h
  | [_], _ :: _ :: _, h => simp [unionOf] at h
  | _ :: _ :: _, [], h => simp [unionOf] at h
  | _ :: _ :: _, [_], h => simp [unionOf] at h

/-- The only name that occurs in a union of labels is that of the type without values. -/
theorem eq_never_of_mem_occurring {labels : List String} {name : String}
    (hname : name ∈ (unionOf (labels.map TypeExpr.text)).occurring) : name = "never" := by
  have htexts (others : List String) : name ∉ occurringAll (others.map TypeExpr.text) := by
    rw [mem_occurringAll]
    rintro ⟨e, he, hoccurs⟩
    obtain ⟨label, -, rfl⟩ := List.mem_map.mp he
    simp [TypeExpr.occurring] at hoccurs
  rcases labels with _ | ⟨label, _ | ⟨second, rest⟩⟩
  · simpa [unionOf, TypeExpr.occurring] using hname
  · simp [unionOf, TypeExpr.occurring] at hname
  · exact absurd hname (htexts (label :: second :: rest))

/-- Display names leave a union of labels alone, unless the type without values has one. -/
theorem rename_unionOf_text {symbols : Symbols} (hnever : symbols.rename? [] "never" = none)
    (labels : List String) :
    (unionOf (labels.map TypeExpr.text)).rename symbols [] = unionOf (labels.map TypeExpr.text) := by
  refine TypeExpr.rename_eq_self fun name hname => ?_
  rwa [eq_never_of_mem_occurring hname]

/-- Statements declare a name once, for some labels: as the union of the labels, or as an enum with
the labels as values if enums are declared as enums. -/
def DeclaresLabels (runtimeEnums : Option Naming.IdentifierStyle) (statements : List Statement)
    (name : String) (labels : List String) : Prop :=
  (boundNames statements).count name = 1 ∧
    match runtimeEnums with
    | none => .exports (.typeAlias name (.plain (unionOf (labels.map TypeExpr.text)))) ∈ statements
    | some _ => ∃ members, .exports (.enum name members) ∈ statements ∧
        members.map (·.value) = labels.map .text

/-- A name is declared for one list of labels at most. -/
theorem DeclaresLabels.unique {runtimeEnums : Option Naming.IdentifierStyle}
    {statements : List Statement} {name : String} {labels others : List String}
    (h : DeclaresLabels runtimeEnums statements name labels)
    (h' : DeclaresLabels runtimeEnums statements name others) : labels = others := by
  obtain ⟨hcount, h⟩ := h
  obtain ⟨-, h'⟩ := h'
  cases runtimeEnums with
  | none =>
    have heq := eq_of_count_boundNames hcount h h' (List.mem_singleton.mpr rfl)
      (List.mem_singleton.mpr rfl)
    simp only [Statement.exports.injEq, Declaration.typeAlias.injEq, Definition.plain.injEq,
      true_and] at heq
    exact (unionOf_text_injective heq).symm
  | some style =>
    obtain ⟨members, hmem, hvalues⟩ := h
    obtain ⟨members', hmem', hvalues'⟩ := h'
    have heq := eq_of_count_boundNames hcount hmem hmem' (List.mem_singleton.mpr rfl)
      (List.mem_singleton.mpr rfl)
    simp only [Statement.exports.injEq, Declaration.enum.injEq, true_and] at heq
    rw [heq, hvalues] at hvalues'
    exact List.map_injective_iff.mpr (fun a b hab => by simpa using hab) hvalues'

/-! ## The type of a column -/

/-- A union of some types mentions what one of them mentions. -/
theorem mentions_rename_unionOf {symbols : Symbols} {es : List TypeExpr} {e : TypeExpr}
    {name : String} (he : e ∈ es) (h : Mentions (e.rename symbols []) name) :
    Mentions ((unionOf es).rename symbols []) name := by
  match es with
  | [] => cases he
  | [other] =>
    obtain rfl := List.mem_singleton.mp he
    exact h
  | first :: second :: rest =>
    have hunion : unionOf (first :: second :: rest) = .union (first :: second :: rest) := rfl
    rw [hunion, TypeExpr.rename, renameAll_eq_map]
    exact .member (List.mem_map_of_mem he) h

/-- The array of some types mentions what one of them mentions. -/
theorem mentions_rename_arrayOf {symbols : Symbols} {es : List TypeExpr} {e : TypeExpr}
    {name : String} (he : e ∈ es) (h : Mentions (e.rename symbols []) name) :
    Mentions ((Context.arrayOf es).rename symbols []) name := by
  have hunion := mentions_rename_unionOf he h
  unfold Context.arrayOf
  dsimp only
  split
  · rw [TypeExpr.rename]
    exact .element hunion
  · rw [TypeExpr.rename, renameAll_eq_map]
    exact .argument (List.mem_singleton.mpr rfl) hunion

/-- However a column wraps a type, it mentions what the type mentions. -/
theorem mentions_rename_wrapType {symbols : Symbols} (c : Column) {e : TypeExpr} {name : String}
    (h : Mentions (e.rename symbols []) name) :
    Mentions ((Context.wrapType c [e]).rename symbols []) name := by
  obtain ⟨element, harray, helement⟩ : ∃ element,
      (if c.isArray then [Context.arrayOf [e]] else [e]) = [element] ∧
        Mentions (element.rename symbols []) name := by
    split
    · exact ⟨_, rfl, mentions_rename_arrayOf (List.mem_singleton.mpr rfl) h⟩
    · exact ⟨_, rfl, h⟩
  have hunion : Mentions ((unionOf (if c.isNullable then [element] ++ [named "null"]
      else [element])).rename symbols []) name :=
    mentions_rename_unionOf (by split <;> simp) helement
  unfold Context.wrapType
  dsimp only
  rw [harray]
  split
  · rw [TypeExpr.rename, renameAll_eq_map]
    exact .argument (List.mem_singleton.mpr rfl) hunion
  · exact hunion

section

variable {profile : Profile} {options : Options} {db : Database} {t : Table} {k : ℕ} {c : Column}
  {typeId : String} {labels : List String}

/-- In the file for a database, the interface of a table types the column at a position. -/
def TypesColumn (profile : Profile) (options : Options) (db : Database) (t : Table) (k : ℕ)
    (type : TypeExpr) : Prop :=
  ∃ name members property, moduleTableName? profile options db t = some name ∧
    .exports (.interface name members) ∈ moduleStatements profile options db ∧
    members[k]? = some property ∧ property.value = type

/-- The type that a column has whatever is registered is its type in the file, with display names put
in. -/
theorem typesColumn_of_columnType {type : TypeExpr} (ht : t ∈ db.tables)
    (hc : t.columns[k]? = some c)
    (htype : ∀ symbols, ((moduleContext profile options db).columnType symbols t c).1 = type) :
    TypesColumn profile options db t k (type.rename (moduleSymbols profile options db) []) := by
  obtain ⟨i, hi, hof⟩ := exists_interfaceOf profile options ht
  obtain ⟨p, hp, hproperty⟩ := exists_getElem?_of_forall₂ hof.members hc
  obtain ⟨symbols, hvalue⟩ := hproperty.value
  refine ⟨i.name, _, renameProperty (moduleSymbols profile options db) [] p, hof.name,
    interface_mem_moduleStatements hi, ?_, ?_⟩
  · rw [renameProperties_eq_map, List.getElem?_map, hp]
    rfl
  · rw [renameProperty_eq, hvalue, htype]

/-- The type of a column that an enum declares: the display name of the enum, wrapped as the column
demands. -/
def enumColumnType (profile : Profile) (options : Options) (db : Database) (c : Column)
    (typeId : String) : TypeExpr :=
  (Context.wrapType c [named (enumSymbolId typeId)]).rename (moduleSymbols profile options db) []

/-- A column that an enum declares is typed by the enum. -/
theorem typesColumn_of_declaringEnum (ht : t ∈ db.tables) (hc : t.columns[k]? = some c)
    (henum : (moduleContext profile options db).declaringEnum? t c = some (typeId, labels)) :
    TypesColumn profile options db t k (enumColumnType profile options db c typeId) :=
  typesColumn_of_columnType ht hc fun symbols => by
    rw [Context.columnType_of_declaringEnum henum]

/-! ## The labels of a column's enum -/

/-- The type without values has no display name unless an import is called so. -/
theorem rename?_never (hfree : ¬(moduleContext profile options db).library.Knows "never") :
    (moduleSymbols profile options db).rename? [] "never" = none :=
  rename?_of_not_knows (by decide) hfree []

/-- An enum is declared with the labels that it is registered with, if its display name is bound
once. -/
theorem declaresLabels_of_find? {e : Entry Symbol}
    (hnever : (moduleSymbols profile options db).rename? [] "never" = none)
    (hfound : (moduleSymbols profile options db).find? (enumSymbolId typeId) = some e)
    (hsymbol : e.symbol = (moduleContext profile options db).enumSymbol typeId labels)
    (hcount : (boundNames (moduleStatements profile options db)).count e.name = 1) :
    DeclaresLabels options.runtimeEnums (moduleStatements profile options db) e.name labels := by
  refine ⟨hcount, ?_⟩
  have hruntime : (moduleContext profile options db).options.runtimeEnums = options.runtimeEnums :=
    rfl
  cases hstyle : options.runtimeEnums with
  | none =>
    rw [Context.enumSymbol, hruntime, hstyle] at hsymbol
    have halias := typeAlias_mem_moduleStatements hfound hsymbol
    rwa [Definition.rename, rename_unionOf_text hnever] at halias
  | some style =>
    rw [Context.enumSymbol, hruntime, hstyle] at hsymbol
    exact ⟨_, enum_mem_moduleStatements hfound hsymbol, map_value_enumMembersFrom _ _⟩

/-- A column that an enum declares is typed by the display name of the enum. This name is declared
for the column's own labels exactly when the first column that the enum declares has the same ones,
no other symbol has the name and it is not the name of the interface that lists all tables. -/
theorem declaresLabels_iff (ht : t ∈ db.tables) (hc : t.columns[k]? = some c)
    (henum : (moduleContext profile options db).declaringEnum? t c = some (typeId, labels))
    (hfree : ∀ name ∈ [enumSymbolId typeId, "never"],
      ¬(moduleContext profile options db).library.Knows name) :
    TypesColumn profile options db t k (enumColumnType profile options db c typeId) ∧
    ∃ name first, Mentions (enumColumnType profile options db c typeId) name ∧
      (moduleSymbols profile options db).name? (enumSymbolId typeId) = some name ∧
      (moduleContext profile options db).firstLabels? typeId
        (db.tables.mergeSort Table.precedes) = some first ∧
      (DeclaresLabels options.runtimeEnums (moduleStatements profile options db) name labels ↔
        first = labels ∧
          (∀ other, (moduleSymbols profile options db).name? other = some name →
            other = enumSymbolId typeId) ∧
          name ≠ databaseName) := by
  have hnever := rename?_never (hfree "never" (by simp))
  obtain ⟨first, hfirst⟩ := Context.exists_firstLabels (List.mem_mergeSort.mpr ht)
    (List.mem_of_getElem? hc) henum
  have hget := get?_moduleSymbols (hfree (enumSymbolId typeId) (by simp))
  rw [hfirst, Option.map_some] at hget
  obtain ⟨e, hfound, hsymbol⟩ := Option.map_eq_some_iff.mp hget
  have htable : e.symbol ≠ .table := by
    rw [hsymbol, Context.enumSymbol]
    split <;> simp
  have hrename : (moduleSymbols profile options db).rename? [] (enumSymbolId typeId) =
      some e.name := by
    simp [rename?, hfound, Symbol.isRenamed_iff.mpr htable]
  refine ⟨typesColumn_of_declaringEnum ht hc henum, e.name, first, ?_, by simp [name?, hfound],
    hfirst, ?_⟩
  · refine mentions_rename_wrapType c ?_
    rw [TypeExpr.rename, if_neg (by simp), hrename]
    exact .name _ _
  · have hcount := count_boundNames_eq_one_iff hfound htable
      fun _ _ => tableSymbolId_ne_enumSymbolId _ _
    constructor
    · intro hdeclares
      have hown := declaresLabels_of_find? hnever hfound hsymbol hdeclares.1
      exact ⟨hown.unique hdeclares, hcount.mp hdeclares.1⟩
    · rintro ⟨rfl, hunique⟩
      exact declaresLabels_of_find? hnever hfound hsymbol (hcount.mpr hunique)

end

/-- Enums of one name in two schemas are told apart where one of the schemas does not go without
saying. -/
theorem declaresLabels_of_status_in_two_schemas :
    let x : Column := { name := "x", dataType := "status", dataTypeSchema := some "public" }
    let y : Column := { name := "y", dataType := "status", dataTypeSchema := some "sales" }
    let db : Database :=
      { tables := [{ schema := some "public", name := "t", columns := [x, y] }],
        enums := [("public.status", ["open"]), ("sales.status", ["paid"])] }
    ∃ name, (moduleSymbols .postgres {} db).name? (enumSymbolId "sales.status") = some name ∧
      DeclaresLabels none (moduleStatements .postgres {} db) name ["paid"] := by
  intro x y db
  have hnames : (moduleSymbols .postgres {} db).entries.map (·.name) =
      ["SalesStatus", "Status", "T"] := by
    cbv
  have hdistinct : (moduleSymbols .postgres {} db).NamesDistinct := by
    rw [(distinctIds_moduleSymbols .postgres {} db).namesDistinct_iff, hnames]
    decide
  have hlabels : (moduleContext .postgres {} db).firstLabels? "sales.status"
      (db.tables.mergeSort Table.precedes) = some ["paid"] := by cbv
  have henum : (moduleContext .postgres {} db).declaringEnum? db.tables[0] y =
      some ("sales.status", ["paid"]) := by cbv
  obtain ⟨-, name, first, -, hname, hfirst, hiff⟩ := declaresLabels_iff (k := 1)
    (List.getElem_mem _) rfl henum (by decide +kernel)
  rw [hlabels] at hfirst
  refine ⟨name, hname, hiff.mpr ⟨(Option.some.inj hfirst).symm, ?_, ?_⟩⟩
  · exact fun other hother => hdistinct _ _ _ hother hname
  · rintro rfl
    have hdatabase := mem_map_name_of_name? hname
    rw [hnames] at hdatabase
    revert hdatabase
    decide

/-- Of two enums of one name in schemas that both go without saying, the one declared later gives its
column the labels of the other. -/
theorem not_declaresLabels_of_status_in_default_schemas :
    let x : Column := { name := "x", dataType := "status", dataTypeSchema := some "public" }
    let y : Column := { name := "y", dataType := "status", dataTypeSchema := some "app" }
    let t : Table := { schema := some "public", name := "t", columns := [x, y] }
    let db : Database :=
      { tables := [t], enums := [("app.status", ["paid"]), ("public.status", ["open"])] }
    let options : Options := { defaultSchemas := some ["public", "app"] }
    (moduleContext .postgres options db).declaringEnum? t y = some ("status", ["paid"]) ∧
    TypesColumn .postgres options db t 1 (named "Status") ∧
    (moduleSymbols .postgres options db).name? (enumSymbolId "status") = some "Status" ∧
    DeclaresLabels none (moduleStatements .postgres options db) "Status" ["open"] ∧
    ¬DeclaresLabels none (moduleStatements .postgres options db) "Status" ["paid"] := by
  intro x y t db options
  have hdeclares : DeclaresLabels none (moduleStatements .postgres options db) "Status"
      ["open"] := by
    have hfound : (moduleSymbols .postgres options db).find? (enumSymbolId "status") = some
        { id := "enum:status", name := "Status",
          symbol := .definition (.plain (unionOf [TypeExpr.text "open"])) } := by cbv
    exact ⟨by cbv, typeAlias_mem_moduleStatements hfound rfl⟩
  have henum : (moduleContext .postgres options db).declaringEnum? t y =
      some ("status", ["paid"]) := by cbv
  have htype : enumColumnType .postgres options db y "status" = named "Status" := by cbv
  have htypes : TypesColumn .postgres options db t 1 (named "Status") :=
    htype ▸ typesColumn_of_declaringEnum (List.mem_singleton.mpr rfl) rfl henum
  refine ⟨henum, htypes, by cbv, hdeclares, fun hother => ?_⟩
  have heq := hdeclares.unique hother
  revert heq
  decide

end TableTypes
