import TableTypes.Proofs.Interfaces.Declarations
import TableTypes.Proofs.Interfaces.Renaming

/-!
# The helper types that a helper type needs

Helper types refer to each other. What a helper type brings into a file is collected from its
references, while display names are put in for all names that occur in it, also inside type text.
For all helper types but one the two agree: the object of JSON values is a type text, and the names
in it are no references. Main statement: a file declares every helper that occurs in a helper type of
it exactly when it has the JSON value where it has the JSON object.
-/

namespace TableTypes

open TypeScript SymbolTable

/-! ## The helpers of a dialect -/

/-- The symbol ids of tables and enums have a colon, the names of helpers have none. -/
theorem colon_notMem_of_knows {dialect : Dialect} {name : String}
    (hknows : (Profile.ofDialect dialect).library.Knows name) : ':' ∉ name.toList := by
  have hkeys : ∀ key ∈ (Profile.ofDialect dialect).library.definitions.keys ++
      (Profile.ofDialect dialect).library.imports.keys, ':' ∉ key.toList := by
    cases dialect <;> decide +kernel
  refine hkeys name (List.mem_append.mpr ?_)
  rwa [Dictionary.mem_keys_iff, Dictionary.mem_keys_iff]

/-- No symbol id of a table is a name that the library of a dialect knows. -/
theorem ne_tableSymbolId_of_knows {dialect : Dialect} {name : String}
    (hknows : (Profile.ofDialect dialect).library.Knows name) (identifier : String) :
    tableSymbolId identifier ≠ name :=
  tableSymbolId_ne_of_colon_notMem (colon_notMem_of_knows hknows) identifier

/-- No symbol id of an enum is a name that the library of a dialect knows. -/
theorem ne_enumSymbolId_of_knows {dialect : Dialect} {name : String}
    (hknows : (Profile.ofDialect dialect).library.Knows name) (typeId : String) :
    enumSymbolId typeId ≠ name :=
  enumSymbolId_ne_of_colon_notMem (colon_notMem_of_knows hknows) typeId

/-- A helper that occurs in a helper type is one of its references, apart from the JSON value, which
occurs in the text of the JSON object. -/
theorem mem_references_of_mem_occurring {dialect : Dialect} {name other : String} {d : Definition}
    (hd : (Profile.ofDialect dialect).library.definitions.get? name = some d)
    (hoccurs : other ∈ d.occurring) (hknows : (Profile.ofDialect dialect).library.Knows other) :
    other ∈ d.references ∨ name = "JsonObject" ∧ other = "JsonValue" := by
  have hall : ∀ entry ∈ (Profile.ofDialect dialect).library.definitions,
      ∀ n ∈ entry.2.occurring, (Profile.ofDialect dialect).library.Knows n →
        n ∈ entry.2.references ∨ entry.1 = "JsonObject" ∧ n = "JsonValue" := by
    cases dialect <;> decide +kernel
  exact hall (name, d) (Dictionary.mem_of_get? hd) other hoccurs hknows

/-- Where there is a JSON object there is a JSON value, and it occurs in it. -/
theorem jsonValue_mem_occurring {dialect : Dialect} {d : Definition}
    (hd : (Profile.ofDialect dialect).library.definitions.get? "JsonObject" = some d) :
    "JsonValue" ∈ d.occurring ∧ (Profile.ofDialect dialect).library.Knows "JsonValue" := by
  have hall : ∀ entry ∈ (Profile.ofDialect dialect).library.definitions,
      entry.1 = "JsonObject" → "JsonValue" ∈ entry.2.occurring ∧
        (Profile.ofDialect dialect).library.Knows "JsonValue" := by
    cases dialect <;> decide +kernel
  exact hall ("JsonObject", d) (Dictionary.mem_of_get? hd) rfl

/-! ## Helpers in a file -/

section

variable {dialect : Dialect} {options : Options} {db : Database}

/-- The imports that the user adds take no helper away. -/
theorem knows_moduleContext {name : String}
    (hknows : (Profile.ofDialect dialect).library.Knows name) :
    (moduleContext (.ofDialect dialect) options db).library.Knows name :=
  hknows.imp id fun himport => (Dictionary.has_override _).mpr (.inl himport)

/-- A registered helper has the symbol that the library has for it. -/
theorem symbol?_of_find? {name : String} {e : Entry Symbol}
    (hknows : (Profile.ofDialect dialect).library.Knows name)
    (hfound : (moduleSymbols (.ofDialect dialect) options db).find? name = some e) :
    (moduleContext (.ofDialect dialect) options db).library.symbol? name = some e.symbol :=
  symbol?_of_colon_notMem (colon_notMem_of_knows hknows) hfound

/-- The symbols of a file hold all helpers that their helper types refer to. -/
theorem closed_moduleSymbols (dialect : Dialect) (options : Options) (db : Database) :
    (moduleContext (.ofDialect dialect) options db).library.Closed
      (moduleSymbols (.ofDialect dialect) options db) := by
  have hundefined {id : String} (hid : ∀ name, (Profile.ofDialect dialect).library.Knows name →
      id ≠ name) :
      (moduleContext (.ofDialect dialect) options db).library.definitions.get? id = none := by
    by_contra hdefined
    exact hid id (.inl (Option.isSome_iff_ne_none.mpr hdefined)) rfl
  refine Context.tableInterfaces_preserves (motive := Library.Closed _) ?_ ?_ ?_ ?_
  · intro symbols t _ hclosed
    exact hclosed.add (hundefined fun _ hknows => ne_tableSymbolId_of_knows hknows _)
  · intro symbols t _ c _ typeId labels _ hclosed
    exact hclosed.add (hundefined fun _ hknows => ne_enumSymbolId_of_knows hknows _)
  · intro symbols names hclosed
    exact hclosed.collectNames names
  · intro name d _ hcontains
    simp [SymbolTable.contains] at hcontains

end

/-- A definition is declared as an alias under the display name of its symbol. -/
def DeclaresDefinition (symbols : Symbols) (statements : List Statement) (name : String)
    (d : Definition) : Prop :=
  ∃ displayed, symbols.name? name = some displayed ∧
    .exports (.typeAlias displayed (d.rename symbols)) ∈ statements

/-- The display name of a symbol is declared, by an alias or an import. -/
def DeclaresName (symbols : Symbols) (statements : List Statement) (name : String) : Prop :=
  ∃ displayed, symbols.name? name = some displayed ∧
    ((∃ d, .exports (.typeAlias displayed d) ∈ statements) ∨
      ∃ path clauses, .imports path clauses ∈ statements ∧
        displayed ∈ clauses.map ImportClause.bound)

/-- Whatever of a library occurs in a declared definition of it is declared as well. -/
def SelfContained (lib : Library) (symbols : Symbols) (statements : List Statement) : Prop :=
  ∀ name d, lib.definitions.get? name = some d → DeclaresDefinition symbols statements name d →
    ∀ other ∈ d.occurring, lib.Knows other → DeclaresName symbols statements other

/-- Every helper that is registered in a file is declared. -/
theorem declaresName_of_contains {dialect : Dialect} {options : Options} {db : Database}
    {name : String} (hknows : (Profile.ofDialect dialect).library.Knows name)
    (hcontains : (moduleSymbols (.ofDialect dialect) options db).contains name = true) :
    DeclaresName (moduleSymbols (.ofDialect dialect) options db)
      (moduleStatements (.ofDialect dialect) options db) name := by
  obtain ⟨e, hfound⟩ := Option.isSome_iff_exists.mp hcontains
  refine ⟨e.name, by simp [name?, hfound], ?_⟩
  have hsymbol := symbol?_of_find? hknows hfound
  unfold Library.symbol? at hsymbol
  split at hsymbol
  · exact .inl ⟨_, typeAlias_mem_moduleStatements hfound (Option.some.inj hsymbol).symm⟩
  · obtain ⟨reference, -, himported⟩ := Option.map_eq_some_iff.mp hsymbol
    exact .inr (exists_imports_mem_moduleStatements hfound himported.symm)

/-- A file declares every helper that occurs in a helper type of it exactly when it has the JSON
value where it has the JSON object. -/
theorem selfContained_iff_jsonValue_declared (dialect : Dialect) (options : Options)
    (db : Database) :
    let lib := (Profile.ofDialect dialect).library
    let symbols := moduleSymbols (.ofDialect dialect) options db
    let statements := moduleStatements (.ofDialect dialect) options db
    SelfContained lib symbols statements ↔
      ∀ d, lib.definitions.get? "JsonObject" = some d →
        DeclaresDefinition symbols statements "JsonObject" d →
        DeclaresName symbols statements "JsonValue" := by
  intro lib symbols statements
  constructor
  · intro hself d hd hdeclares
    obtain ⟨hoccurs, hknows⟩ := jsonValue_mem_occurring hd
    exact hself "JsonObject" d hd hdeclares "JsonValue" hoccurs hknows
  · intro hjson name d hd hdeclares other hoccurs hknows
    rcases mem_references_of_mem_occurring hd hoccurs hknows with hreferred | ⟨rfl, rfl⟩
    · obtain ⟨displayed, hname, -⟩ := hdeclares
      have hcontains : symbols.contains name = true := by
        obtain ⟨e, hfound, -⟩ := Option.map_eq_some_iff.mp hname
        exact Option.isSome_iff_exists.mpr ⟨e, hfound⟩
      have hclosed := (closed_moduleSymbols dialect options db name d hd hcontains).2
      exact declaresName_of_contains hknows
        (hclosed other (mem_references_iff.mp hreferred) (knows_moduleContext hknows))
    · exact hjson d hd hdeclares

/-- A column that the user types as the JSON object brings it into the file without the JSON value
that its text names. -/
theorem not_selfContained_of_jsonObject_override :
    let options : Options := { overrides := [("t.doc", .text "JsonObject")] }
    let db : Database :=
      { tables := [{ schema := none, name := "t", columns := [Column.ofType "doc" "jsonb"] }],
        enums := [] }
    ¬SelfContained Profile.postgres.library (moduleSymbols .postgres options db)
      (moduleStatements .postgres options db) := by
  intro options db hself
  have hobject : (moduleSymbols .postgres options db).find? "JsonObject" = some
      { id := "JsonObject", name := "JsonObject", symbol := .definition (.plain
        (.raw "\x7b\n  [x: string]: JsonValue | undefined;\n\x7d")) } := by cbv
  have hvalue : (moduleSymbols .postgres options db).name? "JsonValue" = none := by cbv
  have hdeclares : DeclaresDefinition (moduleSymbols .postgres options db)
      (moduleStatements .postgres options db) "JsonObject" (.plain
        (.raw "\x7b\n  [x: string]: JsonValue | undefined;\n\x7d")) :=
    ⟨_, by rw [name?, hobject]; rfl, typeAlias_mem_moduleStatements hobject rfl⟩
  obtain ⟨displayed, hname, -⟩ := hself "JsonObject" _ (by cbv) hdeclares "JsonValue"
    (by decide +kernel) (by decide +kernel)
  rw [hvalue] at hname
  cases hname

end TableTypes
