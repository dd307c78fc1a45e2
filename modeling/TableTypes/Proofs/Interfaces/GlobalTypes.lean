import TableTypes.Proofs.Interfaces.Collected
import TableTypes.Proofs.Interfaces.ColumnNames
import TableTypes.Proofs.Interfaces.EnumLabels
import TableTypes.Proofs.Interfaces.SelfContained
import TableTypes.Proofs.Unicode.CaseMap

/-!
# Global types

Scalars are declared by types that every program has, such as `string` and `Date`. They are written
by their names and are no symbols, so the search for free display names knows nothing of them. Main
statement: where the user gives no types and no imports of their own, a file binds a global name
that it uses exactly when a table or an enum asks for `Date` or `Buffer` as its display name and a
column has a data type that is declared by that type. No display name begins with a small letter, so
the other global types are safe.
-/

namespace TableTypes

open TypeScript SymbolTable
open TypeScript.TypeExpr (named)

/-! ## Using and binding a global name -/

/-- The types that every program has, as far as the built-in dialects refer to them. -/
def globalNames : List String :=
  ["boolean", "number", "string", "bigint", "null", "undefined", "unknown", "never", "Date",
    "Buffer"]

/-- The file for a database uses a global type: the name of the type is no symbol and occurs in a
helper type of the file or in the type of a column. -/
def UsesGlobal (profile : Profile) (options : Options) (db : Database) (name : String) : Prop :=
  name ∈ globalNames ∧ (moduleSymbols profile options db).contains name = false ∧
    ((∃ id e d, (moduleSymbols profile options db).find? id = some e ∧
        e.symbol = .definition d ∧ name ∈ d.occurring) ∨
      ∃ i ∈ moduleInterfaces profile options db, name ∈ occurringProperties i.members)

/-- No global type that the file for a database uses has a name that the file binds itself. -/
def KeepsGlobals (profile : Profile) (options : Options) (db : Database) : Prop :=
  ∀ name, UsesGlobal profile options db name →
    name ∉ boundNames (moduleStatements profile options db)

/-- The user gives no types and no imports. -/
structure Options.AddsNoTypes (options : Options) : Prop where
  overrides : options.overrides = []
  typeMapping : options.typeMapping = []
  customImports : options.customImports = []

/-- A table, or an enum that declares the type of a column, asks for a display name. -/
def Context.AsksFor (ctx : Context) (tables : List Table) (name : String) : Prop :=
  (∃ t ∈ tables, baseName .pascal (ctx.interfaceSource (ctx.tableIdentifier t)) = name) ∨
    ∃ t ∈ tables, ∃ c ∈ t.columns, ∃ typeId labels,
      ctx.declaringEnum? t c = some (typeId, labels) ∧ baseName .pascal typeId = name

/-- The data types of a dialect that are declared by a global type whose name begins with a capital,
and that type. -/
def capitalGlobals : Dialect → List (String × String)
  | .postgres =>
    [("bytea", "Buffer"), ("date", "Date"), ("timestamp", "Date"), ("timestamptz", "Date")]
  | .mysql =>
    [("binary", "Buffer"), ("bit", "Buffer"), ("blob", "Buffer"), ("date", "Date"),
      ("datetime", "Date"), ("longblob", "Buffer"), ("mediumblob", "Buffer"), ("timestamp", "Date"),
      ("tinyblob", "Buffer"), ("varbinary", "Buffer")]
  | .sqlite => [("blob", "Buffer")]

/-! ## Which display names are given out -/

/-- No name that is asked for in Pascal case begins with a small ASCII letter. -/
theorem outside_of_mem_head?_baseName {source : String} {c : Char}
    (hc : c ∈ (baseName .pascal source).toList.head?) :
    Unicode.Outside 'a'.toNat 'z'.toNat c.toNat := by
  have hupper (d : Char) (rest : List Char) (hc : c ∈ (Unicode.toUpper d ++ rest).head?) :
      Unicode.Outside 'a'.toNat 'z'.toNat c.toNat := by
    rw [List.head?_append_of_ne_nil _ (Unicode.toUpper_ne_nil d)] at hc
    exact Unicode.outside_of_mem_toUpper (List.mem_of_head? hc)
  unfold baseName at hc
  split at hc
  · rw [show c = '_' by simpa using hc.symm]
    decide
  · rw [String.toList_ofList, Naming.IdentifierStyle.convert, Naming.camelPascalCase] at hc
    split at hc
    · cases hc
    · exact hupper _ _ hc

/-- Of the global names only those that begin with a capital are asked for. -/
theorem baseName_ne_of_small {name : String} (hname : name ∈ globalNames)
    (hsmall : name ≠ "Date" ∧ name ≠ "Buffer") (source : String) :
    baseName .pascal source ≠ name := by
  rintro rfl
  have hhead : ∀ name ∈ globalNames, name ≠ "Date" ∧ name ≠ "Buffer" →
      (name.toList.head?.any fun c => !decide (Unicode.Outside 'a'.toNat 'z'.toNat c.toNat)) := by
    decide
  have hinside := hhead _ hname hsmall
  cases hfirst : (baseName .pascal source).toList.head? with
  | none => simp [hfirst] at hinside
  | some c =>
    exact absurd (outside_of_mem_head?_baseName hfirst) (by simpa [hfirst] using hinside)

/-- Global names are asked for without a guard or a number. -/
theorem isPlain_of_mem_globalNames {name : String} (hname : name ∈ globalNames) : IsPlain name := by
  revert name
  decide

/-- No helper type or import of a dialect asks for a global name. -/
theorem baseName_ne_of_knows {dialect : Dialect} {id name : String}
    (hknows : (Profile.ofDialect dialect).library.Knows id) (hname : name ∈ globalNames) :
    baseName .pascal id ≠ name := by
  have hkeys : ∀ key ∈ (Profile.ofDialect dialect).library.definitions.keys ++
      (Profile.ofDialect dialect).library.imports.keys, baseName .pascal key ∉ globalNames := by
    cases dialect <;> decide
  rintro rfl
  refine hkeys id (List.mem_append.mpr ?_) hname
  rwa [Dictionary.mem_keys_iff, Dictionary.mem_keys_iff]

/-! ## Which data types name a global type -/

/-- The names from which the types of columns come to a global type that begins with a capital: the
global types themselves and the helper type that refers to one. -/
def capitalNames : List String :=
  ["Date", "Buffer", "Timestamp"]

/-- The name of a type that is no more than a name. -/
def TypeScript.TypeExpr.name? : TypeExpr → Option String
  | .name n false => some n
  | _ => none

/-- A type is a name exactly when it is written as that name. -/
theorem TypeScript.TypeExpr.name?_eq_some_iff {e : TypeExpr} {n : String} :
    e.name? = some n ↔ e = named n := by
  unfold name?
  split
  · simp
  · next hother =>
    simp only [reduceCtorEq, false_iff]
    rintro rfl
    exact hother n rfl

/-- Every scalar of a dialect is a name, and where it leads to a global type that begins with a
capital, its data type is listed with that type. -/
theorem scalar_spec {dialect : Dialect} {dataType : String} {e : TypeExpr}
    (hscalar : (Profile.ofDialect dialect).scalars.get? dataType = some e) :
    ∃ n, e = named n ∧ (n ∈ ["Date", "Buffer"] → (dataType, n) ∈ capitalGlobals dialect) ∧
      (n = "Timestamp" → (dataType, "Date") ∈ capitalGlobals dialect) := by
  have hall : ∀ entry ∈ (Profile.ofDialect dialect).scalars, entry.2.name?.any fun n =>
      (n ∈ ["Date", "Buffer"] → (entry.1, n) ∈ capitalGlobals dialect) ∧
        (n = "Timestamp" → (entry.1, "Date") ∈ capitalGlobals dialect) := by
    cases dialect <;> decide
  have hentry := hall (dataType, e) (Dictionary.mem_of_get? hscalar)
  cases hname : e.name? with
  | none => simp [hname] at hentry
  | some n =>
    simp only [hname, Option.any_some, decide_eq_true_eq] at hentry
    exact ⟨n, TypeExpr.name?_eq_some_iff.mp hname, hentry⟩

/-- A listed data type is declared by its global type or by the helper type that refers to it. -/
theorem scalar_of_mem_capitalGlobals {dialect : Dialect} {dataType name : String}
    (hmem : (dataType, name) ∈ capitalGlobals dialect) :
    name ∈ ["Date", "Buffer"] ∧
      ((Profile.ofDialect dialect).scalars.get? dataType = some (named name) ∨
        name = "Date" ∧
          (Profile.ofDialect dialect).scalars.get? dataType = some (named "Timestamp") ∧
          ∃ d, (Profile.ofDialect dialect).library.definitions.get? "Timestamp" = some d ∧
            "Date" ∈ d.occurring) := by
  have hall : ∀ entry ∈ capitalGlobals dialect, entry.2 ∈ ["Date", "Buffer"] ∧
      (((Profile.ofDialect dialect).scalars.get? entry.1).bind TypeExpr.name? = some entry.2 ∨
        entry.2 = "Date" ∧
          ((Profile.ofDialect dialect).scalars.get? entry.1).bind TypeExpr.name? =
            some "Timestamp" ∧
          ((Profile.ofDialect dialect).library.definitions.get? "Timestamp").any
            fun d => "Date" ∈ d.occurring) := by
    cases dialect <;> decide
  have hnamed {n : String}
      (h : ((Profile.ofDialect dialect).scalars.get? dataType).bind TypeExpr.name? = some n) :
      (Profile.ofDialect dialect).scalars.get? dataType = some (named n) := by
    obtain ⟨e, he, hname⟩ := Option.bind_eq_some_iff.mp h
    rw [he, TypeExpr.name?_eq_some_iff.mp hname]
  obtain ⟨hname, hscalar | ⟨hdate, hscalar, hdefinition⟩⟩ := hall _ hmem
  · exact ⟨hname, .inl (hnamed hscalar)⟩
  · refine ⟨hname, .inr ⟨hdate, hnamed hscalar, ?_⟩⟩
    cases hd : (Profile.ofDialect dialect).library.definitions.get? "Timestamp" with
    | none => simp [hd] at hdefinition
    | some d => exact ⟨d, rfl, by simpa [hd] using hdefinition⟩

/-- Of the helper types only one refers to a global type that begins with a capital, and no helper
type refers to it. -/
theorem definition_spec {dialect : Dialect} {id : String} {d : Definition}
    (hd : (Profile.ofDialect dialect).library.definitions.get? id = some d) :
    (∀ n ∈ d.occurring, n ∈ ["Date", "Buffer"] → id = "Timestamp" ∧ n = "Date") ∧
      "Timestamp" ∉ d.references := by
  have hall : ∀ entry ∈ (Profile.ofDialect dialect).library.definitions,
      (∀ n ∈ entry.2.occurring, n ∈ ["Date", "Buffer"] → entry.1 = "Timestamp" ∧ n = "Date") ∧
        "Timestamp" ∉ entry.2.references := by
    cases dialect <;> decide
  exact hall (id, d) (Dictionary.mem_of_get? hd)

/-- The id of a named data type has a dot or no capitals, so it is none of the names with one. -/
theorem typeSymbolId_ne_of_mem_capitalNames (ctx : Context) (c : Column) {name : String}
    (hname : name ∈ capitalNames) :
    ctx.typeSymbolId c (Unicode.lowercase c.dataType) ≠ name := by
  have hcapital : ∀ name ∈ capitalNames, '.' ∉ name.toList ∧
      (name.toList.any fun d => !decide (Unicode.Outside 'A'.toNat 'Z'.toNat d.toNat)) := by
    decide
  obtain ⟨hdot, hcapital⟩ := hcapital _ hname
  have hsmall : Unicode.lowercase c.dataType ≠ name := by
    rintro rfl
    obtain ⟨d, hd, hinside⟩ := List.any_eq_true.mp hcapital
    exact absurd (Unicode.outside_of_mem_lowercase hd) (by simpa using hinside)
  unfold Context.typeSymbolId Context.qualify
  split
  · split
    · exact hsmall
    · rintro rfl
      simp at hdot
  · exact hsmall

/-! ## Files without types of the user -/

section

variable {dialect : Dialect} {options : Options} {db : Database} {name : String}

/-- Options without types leave the library of the dialect as it is. -/
theorem library_of_addsNoTypes (hplain : options.AddsNoTypes) :
    (moduleContext (.ofDialect dialect) options db).library =
      (Profile.ofDialect dialect).library :=
  library_moduleContext hplain.customImports _ db

/-- Options without types override no column. -/
theorem findOverride?_of_addsNoTypes (hplain : options.AddsNoTypes) (profile : Profile) (t : Table)
    (c : Column) : (moduleContext profile options db).findOverride? t c = none := by
  unfold Context.findOverride?
  simp only [moduleContext, hplain.overrides, Dictionary.get?, List.lookup_nil]
  split
  · split <;> rfl
  · rfl

/-- Options without types map no data type. -/
theorem mappedType?_of_addsNoTypes (hplain : options.AddsNoTypes) (profile : Profile) (c : Column)
    (dataType : String) : (moduleContext profile options db).mappedType? c dataType = none := by
  simp [Context.mappedType?, moduleContext, hplain.typeMapping, Dictionary.get?]

/-- The id of a registered symbol gives away the source of its display name. -/
theorem source_eq_of_id_eq (hplain : options.AddsNoTypes) {r r' : Registration Symbol}
    (hr : (moduleContext (.ofDialect dialect) options db).Registers db.tables r)
    (hr' : (moduleContext (.ofDialect dialect) options db).Registers db.tables r')
    (hid : r.id = r'.id) : r.source = r'.source := by
  have hknows {r : Registration Symbol}
      (hr : (moduleContext (.ofDialect dialect) options db).library.Provides r) :
      (Profile.ofDialect dialect).library.Knows r.id :=
    Library.knows_iff.mpr ⟨r.symbol, library_of_addsNoTypes hplain ▸ hr.2⟩
  cases hr with
  | table ht =>
    cases hr' with
    | table ht' =>
      exact congrArg (moduleContext (.ofDialect dialect) options db).interfaceSource
        (tableSymbolId_injective hid)
    | enum => exact absurd hid (tableSymbolId_ne_enumSymbolId _ _)
    | provided hr' => exact absurd hid (ne_tableSymbolId_of_knows (hknows hr') _)
  | enum =>
    cases hr' with
    | table => exact absurd hid.symm (tableSymbolId_ne_enumSymbolId _ _)
    | enum => exact enumSymbolId_injective hid
    | provided hr' => exact absurd hid (ne_enumSymbolId_of_knows (hknows hr') _)
  | provided hr =>
    cases hr' with
    | table => exact absurd hid.symm (ne_tableSymbolId_of_knows (hknows hr) _)
    | enum => exact absurd hid.symm (ne_enumSymbolId_of_knows (hknows hr) _)
    | provided hr' => rw [hr.1, hr'.1, hid]

/-- The symbol of an enum that declares the type of a column is registered. -/
theorem contains_enumSymbolId {t : Table} (ht : t ∈ db.tables) {c : Column} (hc : c ∈ t.columns)
    {typeId : String} {labels : List String} (hplain : options.AddsNoTypes)
    (henum : (moduleContext (.ofDialect dialect) options db).declaringEnum? t c =
      some (typeId, labels)) :
    (moduleSymbols (.ofDialect dialect) options db).contains (enumSymbolId typeId) = true := by
  have hfree : ¬(moduleContext (.ofDialect dialect) options db).library.Knows
      (enumSymbolId typeId) := by
    rw [library_of_addsNoTypes hplain]
    exact fun hknows => ne_enumSymbolId_of_knows hknows typeId rfl
  have ht' : t ∈ db.tables.mergeSort Table.precedes := List.mem_mergeSort.mpr ht
  obtain ⟨first, hfirst⟩ := Context.exists_firstLabels ht' hc henum
  have hget := get?_moduleSymbols hfree
  rw [hfirst] at hget
  obtain ⟨e, hfound, -⟩ := Option.map_eq_some_iff.mp hget
  simp [SymbolTable.contains, hfound]

/-- A global name is bound exactly when a table or an enum asks for it. -/
theorem mem_boundNames_iff_asksFor (hplain : options.AddsNoTypes) (hname : name ∈ globalNames) :
    name ∈ boundNames (moduleStatements (.ofDialect dialect) options db) ↔
      (moduleContext (.ofDialect dialect) options db).AsksFor db.tables name := by
  have hdatabase : name ≠ databaseName := by
    rintro rfl
    revert hname
    decide
  rw [mem_boundNames_iff, or_iff_left hdatabase,
    (grows_moduleSymbols _ _ _).mem_names_iff (fun _ _ => source_eq_of_id_eq hplain)
      (isPlain_of_mem_globalNames hname)]
  constructor
  · rintro ⟨r, hr, -, hbase⟩
    cases hr with
    | table ht => exact .inl ⟨_, ht, hbase⟩
    | enum ht hc henum => exact .inr ⟨_, ht, _, hc, _, _, henum, hbase⟩
    | provided hprovides =>
      obtain ⟨hsource, hsymbol⟩ := hprovides
      rw [library_of_addsNoTypes hplain] at hsymbol
      rw [hsource] at hbase
      exact absurd hbase (baseName_ne_of_knows (Library.knows_iff.mpr ⟨_, hsymbol⟩) hname)
  · rintro (⟨t, ht, hbase⟩ | ⟨t, ht, c, hc, typeId, labels, henum, hbase⟩)
    · obtain ⟨e, hfound⟩ := exists_find?_of_mem (.ofDialect dialect) options ht
      refine ⟨_, .table ht, ?_, hbase⟩
      exact Option.isSome_iff_exists.mpr ⟨e, hfound⟩
    · exact ⟨_, .enum ht hc henum, contains_enumSymbolId ht hc hplain henum, hbase⟩

/-- No global name is the id of a symbol. -/
theorem not_contains_of_mem_globalNames (hplain : options.AddsNoTypes)
    (hname : name ∈ globalNames) :
    (moduleSymbols (.ofDialect dialect) options db).contains name = false := by
  have hcolon : ∀ name ∈ globalNames, ':' ∉ name.toList := by decide
  have hunknown : ∀ name ∈ globalNames, ¬(Profile.ofDialect dialect).library.Knows name := by
    cases dialect <;> decide
  by_contra hcontains
  obtain ⟨e, hfound⟩ := Option.isSome_iff_exists.mp (Bool.eq_true_of_not_eq_false hcontains)
  have hsymbol := symbol?_of_colon_notMem (hcolon _ hname) hfound
  rw [library_of_addsNoTypes hplain] at hsymbol
  exact hunknown _ hname (Library.knows_iff.mpr ⟨_, hsymbol⟩)

/-- The type of a column names a global type with a capital, or the helper type that refers to one,
only if that is the scalar of its data type. -/
theorem scalar_of_mem_columnType (hplain : options.AddsNoTypes) {f : TypeExpr → List String}
    (hf : ListsNames f) {t : Table} {c : Column} {symbols : Symbols}
    (hname : name ∈ capitalNames)
    (hmem : name ∈ f ((moduleContext (.ofDialect dialect) options db).columnType symbols t c).1) :
    (Profile.ofDialect dialect).scalars.get? (Unicode.lowercase c.dataType) =
      some (named name) := by
  have hwrapper : ∀ name ∈ capitalNames, name ∉ ListsNames.wrapperNames ∧ ':' ∉ name.toList ∧
      name ∉ ["string", "unknown"] := by
    decide
  obtain ⟨hwrapper, hcolon, hdefault⟩ := hwrapper _ hname
  rcases Context.mem_columnType_imp hf (findOverride?_of_addsNoTypes hplain _ t c) hmem with
    h | ⟨e, he, hmem⟩
  · exact absurd h hwrapper
  · cases he with
    | mapped hmapped =>
      rw [mappedType?_of_addsNoTypes hplain] at hmapped
      cases hmapped
    | scalar hscalar =>
      obtain ⟨n, rfl, -⟩ := scalar_spec hscalar
      rw [hf.name, List.mem_singleton] at hmem
      rwa [hmem]
    | enum =>
      rw [hf.name, List.mem_singleton] at hmem
      exact absurd hmem.symm (enumSymbolId_ne_of_colon_notMem hcolon _)
    | symbol =>
      rw [hf.name, List.mem_singleton] at hmem
      exact absurd hmem.symm (typeSymbolId_ne_of_mem_capitalNames _ c hname)
    | label value =>
      rw [hf.literal] at hmem
      cases hmem
    | unknown =>
      have hunknown : (Profile.ofDialect dialect).defaultScalar = named "string" ∨
          (Profile.ofDialect dialect).defaultScalar = named "unknown" := by
        cases dialect <;> simp [Profile.ofDialect, Profile.postgres, Profile.mysql, Profile.sqlite]
      have hscalar : (moduleContext (.ofDialect dialect) options db).profile.defaultScalar =
          (Profile.ofDialect dialect).defaultScalar := rfl
      rw [hscalar] at hmem
      rcases hunknown with h | h <;> rw [h, hf.name] at hmem <;>
        exact absurd hmem (by simp_all)

/-- The helper type that refers to a global type is registered for the data types that are declared
by it. -/
theorem exists_column_of_find?_timestamp (hplain : options.AddsNoTypes) {e : Entry Symbol}
    (hfound : (moduleSymbols (.ofDialect dialect) options db).find? "Timestamp" = some e) :
    ∃ t ∈ db.tables, ∃ c ∈ t.columns,
      (Profile.ofDialect dialect).scalars.get? (Unicode.lowercase c.dataType) =
        some (named "Timestamp") := by
  let P : String → Prop := fun n => n = "Timestamp" → ∃ t ∈ db.tables, ∃ c ∈ t.columns,
    (Profile.ofDialect dialect).scalars.get? (Unicode.lowercase c.dataType) =
      some (named "Timestamp")
  have hpass : (moduleContext (.ofDialect dialect) options db).library.Passes
      (moduleSymbols (.ofDialect dialect) options db) P := by
    rintro id symbol hknown - - other hother rfl
    rw [library_of_addsNoTypes hplain] at hknown
    obtain ⟨d, hd, hmentions⟩ := (Library.mem_references_of_symbol? hknown).mp hother
    exact absurd (mem_references_iff.mpr hmentions) (definition_spec hd).2
  have hgrows := grows_moduleSymbols_of hpass ?_ ?_
  · rcases hgrows.find?_inv hfound with h | ⟨-, r, hr, hid, -⟩
    · simp at h
    · cases hr with
      | table => exact absurd hid (tableSymbolId_ne_of_colon_notMem (by decide) _)
      | enum => exact absurd hid (enumSymbolId_ne_of_colon_notMem (by decide) _)
      | provided _ hP => exact hP hid
  · intro t ht c hc n hn
    simp [Context.namespaces, findOverride?_of_addsNoTypes hplain,
      mappedType?_of_addsNoTypes hplain] at hn
  · rintro i hi p hp n hn rfl
    obtain ⟨t, ht, c, hc, symbols, hvalue⟩ := exists_column_of_mem_members hi hp
    rw [hvalue] at hn
    exact ⟨t, ht, c, hc, scalar_of_mem_columnType hplain listsNames_references (by decide) hn⟩

/-- A global type with a capital occurs in one helper type only. -/
theorem timestamp_of_mem_occurring (hname : name ∈ ["Date", "Buffer"]) {id : String}
    {e : Entry Symbol}
    (hfound : (moduleSymbols (.ofDialect dialect) options db).find? id = some e) {d : Definition}
    (hsymbol : e.symbol = .definition d) (hoccurs : name ∈ d.occurring) :
    id = "Timestamp" ∧ name = "Date" := by
  rcases definition_of_find? hfound hsymbol with hd | ⟨labels, rfl⟩
  · exact (definition_spec hd).1 name hoccurs hname
  · have hnever : name = "never" := eq_never_of_mem_occurring (List.mem_filter.mp hoccurs).1
    simp [hnever] at hname

/-- A global type that begins with a capital is used for a column of a data type that is declared by
it only. -/
theorem exists_column_of_usesGlobal (hplain : options.AddsNoTypes)
    (hname : name ∈ ["Date", "Buffer"])
    (huses : UsesGlobal (.ofDialect dialect) options db name) :
    ∃ t ∈ db.tables, ∃ c ∈ t.columns,
      (Unicode.lowercase c.dataType, name) ∈ capitalGlobals dialect := by
  obtain ⟨-, -, ⟨id, e, d, hfound, hsymbol, hoccurs⟩ | ⟨i, hi, hoccurs⟩⟩ := huses
  · obtain ⟨rfl, rfl⟩ := timestamp_of_mem_occurring hname hfound hsymbol hoccurs
    obtain ⟨t, ht, c, hc, hscalar⟩ := exists_column_of_find?_timestamp hplain hfound
    obtain ⟨n, hn, -, hlisted⟩ := scalar_spec hscalar
    exact ⟨t, ht, c, hc, hlisted (by simpa using hn.symm)⟩
  · obtain ⟨p, hp, hoccurs⟩ := mem_occurringProperties.mp hoccurs
    obtain ⟨t, ht, c, hc, symbols, hvalue⟩ := exists_column_of_mem_members hi hp
    have hcapital : ∀ n ∈ ["Date", "Buffer"], n ∈ capitalNames := by decide
    rw [hvalue] at hoccurs
    have hscalar :=
      scalar_of_mem_columnType hplain listsNames_occurring (hcapital name hname) hoccurs
    obtain ⟨n, hn, hlisted, -⟩ := scalar_spec hscalar
    obtain rfl : name = n := by simpa using hn
    exact ⟨t, ht, c, hc, hlisted hname⟩

/-- A column of a data type that is declared by a global type uses it. -/
theorem usesGlobal_of_mem_capitalGlobals (hplain : options.AddsNoTypes) {t : Table}
    (ht : t ∈ db.tables) {c : Column} (hc : c ∈ t.columns)
    (hlisted : (Unicode.lowercase c.dataType, name) ∈ capitalGlobals dialect) :
    UsesGlobal (.ofDialect dialect) options db name := by
  obtain ⟨hname, hdeclares⟩ := scalar_of_mem_capitalGlobals hlisted
  have hglobals : ∀ n ∈ ["Date", "Buffer"], n ∈ globalNames := by decide
  have hglobal : name ∈ globalNames := hglobals name hname
  refine ⟨hglobal, not_contains_of_mem_globalNames hplain hglobal, ?_⟩
  obtain ⟨i, hi, p, hp, symbols, hvalue⟩ :=
    exists_mem_members_of_column (.ofDialect dialect) options ht hc
  have hmem {f : TypeExpr → List String} (hf : ListsNames f) {n : String}
      (hscalar : (Profile.ofDialect dialect).scalars.get? (Unicode.lowercase c.dataType) =
        some (named n)) : n ∈ f p.value := by
    rw [hvalue]
    exact Context.mem_columnType_of_scalar hf (findOverride?_of_addsNoTypes hplain _ t c)
      (mappedType?_of_addsNoTypes hplain _ c _) hscalar symbols (by simp [hf.name])
  obtain hscalar | ⟨rfl, hscalar, d, hd, hoccurs⟩ := hdeclares
  · exact .inr ⟨i, hi, mem_occurringProperties.mpr ⟨p, hp, hmem listsNames_occurring hscalar⟩⟩
  · have hknows : (Profile.ofDialect dialect).library.Knows "Timestamp" :=
      Library.knows_iff.mpr ⟨_, Library.symbol?_of_definition hd⟩
    obtain ⟨e, hfound⟩ := Option.isSome_iff_exists.mp (contains_moduleSymbols_of_mem hi hp
      (hmem listsNames_references hscalar) (knows_moduleContext hknows))
    have hsymbol := symbol?_of_find? hknows hfound
    rw [library_of_addsNoTypes hplain, Library.symbol?_of_definition hd] at hsymbol
    exact .inl ⟨"Timestamp", e, d, hfound, (Option.some.inj hsymbol).symm, hoccurs⟩

/-! ## When a global type is captured -/

/-- Where the user gives no types and no imports, a file keeps the global types that it uses exactly
when for each column whose data type is declared by `Date` or `Buffer`, itself or through a helper
type, no table and no enum asks for that name. -/
theorem keepsGlobals_iff (hplain : options.AddsNoTypes) :
    KeepsGlobals (.ofDialect dialect) options db ↔
      ∀ t ∈ db.tables, ∀ c ∈ t.columns, ∀ name,
        (Unicode.lowercase c.dataType, name) ∈ capitalGlobals dialect →
        ¬(moduleContext (.ofDialect dialect) options db).AsksFor db.tables name := by
  constructor
  · intro hkeeps t ht c hc name hlisted hasks
    have huses := usesGlobal_of_mem_capitalGlobals hplain ht hc hlisted
    exact hkeeps name huses ((mem_boundNames_iff_asksFor hplain huses.1).mpr hasks)
  · intro hfree name huses hbound
    have hasks := (mem_boundNames_iff_asksFor hplain huses.1).mp hbound
    by_cases hname : name ∈ ["Date", "Buffer"]
    · obtain ⟨t, ht, c, hc, hlisted⟩ := exists_column_of_usesGlobal hplain hname huses
      exact hfree t ht c hc name hlisted hasks
    · have hsmall : name ≠ "Date" ∧ name ≠ "Buffer" := by simpa using hname
      rcases hasks with ⟨t, -, hbase⟩ | ⟨t, -, c, -, typeId, labels, -, hbase⟩
      · exact baseName_ne_of_small huses.1 hsmall _ hbase
      · exact baseName_ne_of_small huses.1 hsmall _ hbase

end

/-- A table `dates` asks for `Dates`, so the dates in its columns stay what they are. -/
theorem keepsGlobals_of_dates_table :
    let db : Database :=
      { tables := [{ schema := none, name := "dates", columns := [Column.ofType "day" "datetime"] }]
        enums := [] }
    ({} : Options).AddsNoTypes ∧ UsesGlobal .mysql {} db "Date" ∧ KeepsGlobals .mysql {} db := by
  intro db
  have hplain : ({} : Options).AddsNoTypes := ⟨rfl, rfl, rfl⟩
  have huses : UsesGlobal (.ofDialect .mysql) {} db "Date" :=
    usesGlobal_of_mem_capitalGlobals hplain (List.mem_singleton_self _)
      (List.mem_singleton_self _) (by decide)
  have hiff : KeepsGlobals (.ofDialect .mysql) {} db ↔ _ := keepsGlobals_iff hplain
  refine ⟨hplain, huses, hiff.mpr ?_⟩
  intro t ht c hc name hlisted hasks
  obtain rfl := List.mem_singleton.mp ht
  obtain rfl := List.mem_singleton.mp hc
  have htype : Unicode.lowercase (Column.ofType "day" "datetime").dataType = "datetime" := by
    decide
  have hdate : ∀ entry ∈ capitalGlobals .mysql, entry.1 = "datetime" → entry.2 = "Date" := by
    decide
  obtain rfl : name = "Date" := hdate _ hlisted htype
  rcases hasks with ⟨t, ht, hbase⟩ | ⟨t, ht, c, hc, typeId, labels, henum, -⟩
  · obtain rfl := List.mem_singleton.mp ht
    revert hbase
    decide
  · obtain rfl := List.mem_singleton.mp ht
    obtain rfl := List.mem_singleton.mp hc
    obtain ⟨-, -, hnone, -⟩ := Context.declaringEnum?_eq_some_iff.mp henum
    have hscalar : (Profile.mysql.scalars.get? "datetime").isSome = true := by decide
    rw [htype] at hnone
    have hprofile : (moduleContext (.ofDialect .mysql) {} db).profile = Profile.mysql := rfl
    rw [hprofile] at hnone
    simp [hnone] at hscalar

/-- A table `date` takes the name of the global type that its own column is declared by: the column
then has the type of the table's rows. -/
theorem not_keepsGlobals_of_date_table :
    let db : Database :=
      { tables := [{ schema := none, name := "date", columns := [Column.ofType "day" "datetime"] }]
        enums := [] }
    ({} : Options).AddsNoTypes ∧
    moduleStatements .mysql {} db =
      [.exports (.interface "Date" [{ key := "day", value := named "Date", comment := none }]),
        .exports (.interface "DB"
          [{ key := "date", value := .name "Date" true, comment := none }])] ∧
    ¬KeepsGlobals .mysql {} db := by
  intro db
  have hplain : ({} : Options).AddsNoTypes := ⟨rfl, rfl, rfl⟩
  have huses : UsesGlobal (.ofDialect .mysql) {} db "Date" :=
    usesGlobal_of_mem_capitalGlobals hplain (List.mem_singleton_self _)
      (List.mem_singleton_self _) (by decide)
  have hbound : "Date" ∈ boundNames (moduleStatements (.ofDialect .mysql) {} db) :=
    (mem_boundNames_iff_asksFor hplain (by decide)).mpr
      (.inl ⟨_, List.mem_singleton_self _, by decide⟩)
  exact ⟨hplain, by cbv, fun hkeeps => hkeeps "Date" huses hbound⟩

end TableTypes
