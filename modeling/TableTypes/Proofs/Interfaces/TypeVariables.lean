import TableTypes.Proofs.Interfaces.Collected
import TableTypes.Proofs.Interfaces.ColumnNames
import TableTypes.Proofs.Interfaces.Places
import TableTypes.Proofs.Interfaces.SelfContained

/-!
# Type variables

Helper types with a parameter bind further variables by `infer`. Collecting and putting in display
names know the symbols by their ids only, and an import of the user may be called like a variable.
Then the variable brings the import into the file, and where it is no parameter it is even written
under the display name of the import. Main statement: a file keeps its variables apart from its
symbols exactly when, as soon as such a helper type is in it, each import that is called like one
of its variables is needed elsewhere and displayed under its own name, and no variable in a column's
own type brings in a symbol.
-/

namespace TableTypes

open TypeScript SymbolTable
open TypeScript.TypeExpr (named unionOf columnType)

/-! ## Keeping variables -/

/-- Where the references of a file begin: a column's type refers to a name freely, or the type that
is mapped to a column's data type has it as its namespace. -/
def IsRoot (profile : Profile) (options : Options) (db : Database) (name : String) : Prop :=
  (∃ i ∈ moduleInterfaces profile options db, ∃ p ∈ i.members, p.value.RefersFreely [] name) ∨
    ∃ t ∈ db.tables, ∃ c ∈ t.columns,
      name ∈ (moduleContext profile options db).namespaces t c

/-- The names that are reached from some roots if no variable counts as a reference. -/
inductive ReachedFreely (symbols : Symbols) (roots : String → Prop) : String → Prop where
  | root {name : String} : roots name → ReachedFreely symbols roots name
  | step {name other : String} {d : Definition} : ReachedFreely symbols roots name →
      symbols.get? name = some (.definition d) → d.body.RefersFreely d.params other →
      ReachedFreely symbols roots other

/-- A name is no symbol to be displayed, or it is reached by references that are no variables. -/
def NeededFreely (profile : Profile) (options : Options) (db : Database) (name : String) : Prop :=
  ∀ e, (moduleSymbols profile options db).find? name = some e → e.symbol.isRenamed = true →
    ReachedFreely (moduleSymbols profile options db) (IsRoot profile options db) name

/-- The file for a database keeps variables apart from symbols. -/
structure KeepsVariables (profile : Profile) (options : Options) (db : Database) : Prop where
  /-- Each helper type with parameters is declared with the places and the variables that it is
  defined with, and all names that are variables in scope are written as they are. -/
  places : ∀ id e params body, (moduleSymbols profile options db).find? id = some e →
    e.symbol = .definition (.template params body) →
    ∃ declared, .exports (.typeAlias e.name (.template params declared)) ∈
        moduleStatements profile options db ∧
      declared.places params = (body.places params).map (fun q =>
        (q.1, q.2.rename (moduleSymbols profile options db) params)) ∧
      ∀ q ∈ body.places params, ∀ n ∈ q.2.names, n ∈ q.1 →
        ((moduleSymbols profile options db).rename? params n).getD n = n
  /-- No import, helper type or enum is there for a variable only. -/
  needed : ∀ name, NeededFreely profile options db name

/-- A variable in a registered helper type has the name of a reference. -/
def DefinitionBinds (symbols : Symbols) (name : String) : Prop :=
  ∃ id d, symbols.get? id = some (.definition d) ∧ d.body.RefersBound d.params name

/-- A variable in the type of a column has the name of a reference. -/
def ColumnBinds (profile : Profile) (options : Options) (db : Database) (name : String) : Prop :=
  ∃ i ∈ moduleInterfaces profile options db, ∃ p ∈ i.members, p.value.RefersBound [] name

section

variable {profile : Profile} {options : Options} {db : Database}

/-! ## What is reached -/

/-- What a column's type refers to is needed freely, if its variables are. -/
theorem neededFreely_of_mem_members
    (hbound : ∀ name, ColumnBinds profile options db name → NeededFreely profile options db name)
    {i : Interface} (hi : i ∈ moduleInterfaces profile options db) {p : Property TypeExpr}
    (hp : p ∈ i.members) {name : String} (hname : name ∈ p.value.references) :
    NeededFreely profile options db name := by
  rcases refersFreely_or_refersBound [] hname with hfree | hvariable
  · exact fun _ _ _ => .root (.inl ⟨i, hi, p, hp, hfree⟩)
  · exact hbound name ⟨i, hi, p, hp, hvariable⟩

/-- What a helper type refers to is needed freely, if the helper type and its variables are. -/
theorem passes_neededFreely
    (hbound : ∀ name, DefinitionBinds (moduleSymbols profile options db) name →
      NeededFreely profile options db name) :
    (moduleContext profile options db).library.Passes (moduleSymbols profile options db)
      (NeededFreely profile options db) := by
  intro name symbol hknown hget hneeded other hother
  obtain ⟨d, hd, hmentions⟩ := (Library.mem_references_of_symbol? hknown).mp hother
  obtain rfl : .definition d = symbol :=
    Option.some.inj ((Library.symbol?_of_definition hd).symm.trans hknown)
  rcases refersFreely_or_refersBound d.params (mem_references_iff.mpr hmentions) with
    hfree | hvariable
  · obtain ⟨e, hfound, hsymbol⟩ := Option.map_eq_some_iff.mp hget
    have hreached := hneeded e hfound (by rw [hsymbol]; rfl)
    exact fun _ _ _ => .step hreached hget hfree
  · exact hbound other ⟨name, d, hget, hvariable⟩

/-- If the variables of a file are needed freely, so are all its imports, helper types and enums. -/
theorem neededFreely_of_bound
    (hdefinitions : ∀ name, DefinitionBinds (moduleSymbols profile options db) name →
      NeededFreely profile options db name)
    (hcolumns : ∀ name, ColumnBinds profile options db name → NeededFreely profile options db name)
    (id : String) : NeededFreely profile options db id := by
  have hgrows := grows_moduleSymbols_of (passes_neededFreely hdefinitions)
    (fun t ht c hc n hn _ _ _ => .root (.inr ⟨t, ht, c, hc, hn⟩))
    (fun i hi p hp n hn => neededFreely_of_mem_members hcolumns hi hp hn)
  intro e hfound hrenamed
  rcases hgrows.find?_inv hfound with h | ⟨-, r, hr, rfl, hsymbol⟩
  · simp at h
  · cases hr with
    | table =>
      rw [← hsymbol] at hrenamed
      cases hrenamed
    | @enum t c typeId labels ht hc henum =>
      obtain ⟨i, hi, p, hp, symbols, hvalue⟩ :=
        exists_mem_members_of_column profile options ht hc
      have hname : enumSymbolId typeId ∈ p.value.references := by
        rw [hvalue, Context.columnType_of_declaringEnum henum]
        exact listsNames_references.mem_wrapType c (List.mem_singleton_self _)
          (by simp [listsNames_references.name])
      exact neededFreely_of_mem_members hcolumns hi hp hname e hfound hrenamed
    | provided _ hneeded => exact hneeded e hfound hrenamed

/-- A name that is no parameter is written as it is exactly when no symbol of another display name
has it as its id. -/
theorem getD_rename?_eq_self_iff {symbols : Symbols} {params : List String} {name : String}
    (hname : name ∉ params) :
    (symbols.rename? params name).getD name = name ↔
      ∀ e, symbols.find? name = some e → e.symbol.isRenamed = true → e.name = name := by
  unfold SymbolTable.rename?
  rw [if_neg (by simpa using hname)]
  cases hfound : symbols.find? name with
  | none => simp
  | some e => cases hrenamed : e.symbol.isRenamed <;> simp [hrenamed]

/-- Parameters are written as they are. -/
theorem getD_rename?_of_mem {symbols : Symbols} {params : List String} {name : String}
    (hname : name ∈ params) : (symbols.rename? params name).getD name = name := by
  simp [SymbolTable.rename?, hname]

/-- A file keeps its variables exactly when no inferred variable of a helper type is the id of a
symbol with another display name, and all symbols that variables refer to are needed freely. -/
theorem keepsVariables_iff_bound (profile : Profile) (options : Options) (db : Database) :
    KeepsVariables profile options db ↔
      (∀ id e params body, (moduleSymbols profile options db).find? id = some e →
        e.symbol = .definition (.template params body) →
        ∀ q ∈ body.places params, ∀ n ∈ q.2.names, n ∈ q.1 → n ∉ params →
          ∀ e', (moduleSymbols profile options db).find? n = some e' →
            e'.symbol.isRenamed = true → e'.name = n) ∧
      (∀ name, DefinitionBinds (moduleSymbols profile options db) name →
        NeededFreely profile options db name) ∧
      ∀ name, ColumnBinds profile options db name → NeededFreely profile options db name := by
  constructor
  · intro hkeeps
    refine ⟨?_, fun name _ => hkeeps.needed name, fun name _ => hkeeps.needed name⟩
    intro id e params body hfound hsymbol q hq n hn hscope hparam
    obtain ⟨-, -, -, hself⟩ := hkeeps.places id e params body hfound hsymbol
    exact (getD_rename?_eq_self_iff hparam).mp (hself q hq n hn hscope)
  · rintro ⟨hnames, hdefinitions, hcolumns⟩
    refine ⟨fun id e params body hfound hsymbol => ?_, neededFreely_of_bound hdefinitions hcolumns⟩
    refine ⟨_, typeAlias_mem_moduleStatements hfound hsymbol, body.places_rename _ _ _, ?_⟩
    intro q hq n hn hscope
    by_cases hparam : n ∈ params
    · exact getD_rename?_of_mem hparam
    · exact (getD_rename?_eq_self_iff hparam).mpr
        (hnames id e params body hfound hsymbol q hq n hn hscope hparam)

end

/-! ## The built-in helper types -/

/-- The variables that the built-in helper types bind by `infer`. -/
def inferredVariables : List String := ["I", "S", "U"]

/-- All variables of the built-in helper types. -/
def templateVariables : List String := "T" :: inferredVariables

/-- The built-in helper types that bind all of these variables. A third one refers to the first. -/
def templateNames : List String := ["ArrayTypeImpl", "Generated"]

section

variable {dialect : Dialect} {options : Options} {db : Database} {id name : String}
  {d : Definition}

/-- Of the built-in helper types only three have variables. -/
theorem scope_of_library
    (hd : (Profile.ofDialect dialect).library.definitions.get? id = some d)
    {q : List String × NamePlace} (hq : q ∈ d.body.places d.params) (hname : name ∈ q.1) :
    (id = "ArrayType" ∨ id ∈ templateNames) ∧
      (name = "T" ∧ name ∈ d.params ∨ name ∈ inferredVariables) := by
  have hall : ∀ entry ∈ (Profile.ofDialect dialect).library.definitions,
      ∀ q ∈ entry.2.body.places entry.2.params, ∀ n ∈ q.1,
        (entry.1 = "ArrayType" ∨ entry.1 ∈ templateNames) ∧
          (n = "T" ∧ n ∈ entry.2.params ∨ n ∈ inferredVariables) := by
    cases dialect <;> decide
  exact hall (id, d) (Dictionary.mem_of_get? hd) q hq name hname

/-- No built-in helper type refers freely to what is called like a variable. -/
theorem not_refersFreely_of_library
    (hd : (Profile.ofDialect dialect).library.definitions.get? id = some d)
    (hname : name ∈ templateVariables) : ¬d.body.RefersFreely d.params name := by
  have hall : ∀ entry ∈ (Profile.ofDialect dialect).library.definitions,
      ∀ q ∈ entry.2.body.places entry.2.params, ∀ n ∈ q.2.reference?.toList,
        n ∈ templateVariables → n ∈ q.1 := by
    cases dialect <;> decide
  rintro ⟨q, hq, hreference, hfree⟩
  exact hfree (hall (id, d) (Dictionary.mem_of_get? hd) q hq name (by simp [hreference]) hname)

/-- Each variable stands by itself somewhere in the helper types that bind all of them. -/
theorem exists_place_of_mem_templateNames (dialect : Dialect) (hid : id ∈ templateNames) :
    ∃ body, (Profile.ofDialect dialect).library.definitions.get? id =
        some (.template ["T"] body) ∧
      ∀ v ∈ templateVariables, ∃ q ∈ body.places ["T"], q.2 = .name v false ∧ v ∈ q.1 := by
  obtain rfl | rfl : id = "ArrayTypeImpl" ∨ id = "Generated" := by simpa [templateNames] using hid
  · cases dialect <;> exact ⟨_, rfl, by decide⟩
  · cases dialect <;> exact ⟨_, rfl, by decide⟩

/-- A union of labels has no place for a variable. -/
theorem eq_of_mem_places_unionOf_text {labels : List String} {q : List String × NamePlace}
    (hq : q ∈ (unionOf (labels.map TypeExpr.text)).places []) : q = ([], .name "never" false) := by
  have htexts (others : List String) : q ∉ placesAll [] (others.map TypeExpr.text) := by
    rw [placesAll_eq_flatMap, List.flatMap_map]
    intro hq
    obtain ⟨label, -, hq⟩ := List.mem_flatMap.mp hq
    cases hq
  rcases labels with _ | ⟨label, _ | ⟨second, rest⟩⟩
  · simpa [unionOf, TypeExpr.places] using hq
  · cases hq
  · exact absurd hq (htexts (label :: second :: rest))

/-! ## Variables in a file -/

/-- A variable of a registered helper type is one of the built-in variables, and the file has a
helper type that binds all of these. -/
theorem scope_of_find? {e : Entry Symbol}
    (hfound : (moduleSymbols (.ofDialect dialect) options db).find? id = some e)
    (hsymbol : e.symbol = .definition d) {q : List String × NamePlace}
    (hq : q ∈ d.body.places d.params) (hname : name ∈ q.1) :
    (∃ template ∈ templateNames,
      (moduleSymbols (.ofDialect dialect) options db).contains template = true) ∧
      (name = "T" ∧ name ∈ d.params ∨ name ∈ inferredVariables) := by
  have hcontains : (moduleSymbols (.ofDialect dialect) options db).contains id = true := by
    simp [SymbolTable.contains, hfound]
  rcases definition_of_find? hfound hsymbol with hd | ⟨labels, rfl⟩
  · obtain ⟨hid, hvariable⟩ := scope_of_library hd hq hname
    refine ⟨?_, hvariable⟩
    rcases hid with rfl | hid
    · have hmentions : Mentions d.body "ArrayTypeImpl" := by
        have hall : ∀ entry ∈ (Profile.ofDialect dialect).library.definitions,
            entry.1 = "ArrayType" → "ArrayTypeImpl" ∈ entry.2.references := by
          cases dialect <;> decide
        exact mem_references_iff.mp (hall _ (Dictionary.mem_of_get? hd) rfl)
      have hknows : (Profile.ofDialect dialect).library.Knows "ArrayTypeImpl" := by
        cases dialect <;> decide
      refine ⟨"ArrayTypeImpl", by decide, ?_⟩
      exact (closed_moduleSymbols dialect options db _ d hd hcontains).2 _ hmentions
        (knows_moduleContext hknows)
    · exact ⟨id, hid, hcontains⟩
  · rw [eq_of_mem_places_unionOf_text hq] at hname
    cases hname

/-- Variables are called unlike tables and enums. -/
theorem colon_notMem_of_mem_templateVariables (hname : name ∈ templateVariables) :
    ':' ∉ name.toList := by
  revert name
  decide

/-- A symbol that is called like a variable is an import of the user. -/
theorem customImport_of_find? {e : Entry Symbol} (hname : name ∈ templateVariables)
    (hfound : (moduleSymbols (.ofDialect dialect) options db).find? name = some e) :
    options.customImports.has name = true := by
  have hunknown : ∀ v ∈ templateVariables, ¬(Profile.ofDialect dialect).library.Knows v := by
    cases dialect <;> decide
  have hsymbol := symbol?_of_colon_notMem (colon_notMem_of_mem_templateVariables hname) hfound
  rcases Library.knows_iff.mpr ⟨_, hsymbol⟩ with hdefinition | himport
  · exact absurd (.inl hdefinition) (hunknown _ hname)
  · rcases (Dictionary.has_override _).mp himport with hown | hcustom
    · exact absurd (.inr hown) (hunknown _ hname)
    · rwa [← Dictionary.has_map]

/-- A helper type that binds all variables brings in the imports that are called like one. -/
theorem exists_find?_of_customImport {template : String} (htemplate : template ∈ templateNames)
    (hcontains : (moduleSymbols (.ofDialect dialect) options db).contains template = true)
    (hname : name ∈ templateVariables) (hcustom : options.customImports.has name = true) :
    ∃ e, (moduleSymbols (.ofDialect dialect) options db).find? name = some e ∧
      e.symbol.isRenamed = true := by
  obtain ⟨body, hd, hall⟩ := exists_place_of_mem_templateNames dialect htemplate
  obtain ⟨q, hq, hplace, -⟩ := hall name hname
  have hmentions : Mentions body name :=
    mem_references_iff.mp ((mem_references_iff_places ["T"]).mpr ⟨q, hq, by rw [hplace]; rfl⟩)
  have hknows : (moduleContext (.ofDialect dialect) options db).library.Knows name := by
    refine .inr ((Dictionary.has_override _).mpr (.inr ?_))
    rwa [Dictionary.has_map]
  obtain ⟨e, hfound⟩ := Option.isSome_iff_exists.mp
    ((closed_moduleSymbols dialect options db template _ hd hcontains).2 name hmentions hknows)
  have hsymbol := symbol?_of_colon_notMem (colon_notMem_of_mem_templateVariables hname) hfound
  exact ⟨e, hfound, Library.isRenamed_of_symbol? hsymbol⟩

/-- What is called like a variable is reached freely from the columns' types alone. -/
theorem isRoot_of_reachedFreely (hname : name ∈ templateVariables)
    (hreached : ReachedFreely (moduleSymbols (.ofDialect dialect) options db)
      (IsRoot (.ofDialect dialect) options db) name) :
    IsRoot (.ofDialect dialect) options db name := by
  cases hreached with
  | root hroot => exact hroot
  | @step _ _ d _ hget hfree =>
    obtain ⟨e, hfound, hsymbol⟩ := Option.map_eq_some_iff.mp hget
    rcases definition_of_find? hfound hsymbol with hd | ⟨labels, rfl⟩
    · exact absurd hfree (not_refersFreely_of_library hd hname)
    · obtain ⟨q, hq, hreference, -⟩ := hfree
      rw [eq_of_mem_places_unionOf_text hq] at hreference
      obtain rfl : "never" = name := Option.some.inj hreference
      exact absurd hname (by decide)

/-- Beside a helper type that keeps its variables an import called like one that is bound by `infer`
is displayed under its own name. -/
theorem name?_of_keepsVariables (hkeeps : KeepsVariables (.ofDialect dialect) options db)
    {template : String} (htemplate : template ∈ templateNames)
    (hcontains : (moduleSymbols (.ofDialect dialect) options db).contains template = true)
    (hcustom : options.customImports.has name = true) (hname : name ∈ inferredVariables) :
    (moduleSymbols (.ofDialect dialect) options db).name? name = some name := by
  have hvariable : name ∈ templateVariables := List.mem_cons_of_mem _ hname
  obtain ⟨e, hfound, hrenamed⟩ := exists_find?_of_customImport htemplate hcontains hvariable hcustom
  obtain ⟨body, hd, hall⟩ := exists_place_of_mem_templateNames dialect htemplate
  obtain ⟨q, hq, hplace, hscope⟩ := hall name hvariable
  have hget := (closed_moduleSymbols dialect options db template _ hd hcontains).1
  obtain ⟨f, hf, hsymbol⟩ := Option.map_eq_some_iff.mp hget
  have hparam : ∀ v ∈ inferredVariables, v ∉ ["T"] := by decide
  obtain ⟨-, -, -, hself⟩ := hkeeps.places template f ["T"] body hf hsymbol
  have hwritten := hself q hq name (by simp [hplace, NamePlace.names]) hscope
  have hdisplayed := (getD_rename?_eq_self_iff (hparam name hname)).mp hwritten e hfound hrenamed
  simp [name?, hfound, hdisplayed]

/-- A file keeps its variables apart from its symbols exactly when, if it has a built-in helper type
that binds variables, each import of the user that is called like one of them is referred to by a
column and, unless the variable is the parameter, displayed under its own name, and when no variable
in a column's own type brings in a symbol. -/
theorem keepsVariables_iff (dialect : Dialect) (options : Options) (db : Database) :
    KeepsVariables (.ofDialect dialect) options db ↔
      ((∃ template ∈ templateNames,
          (moduleSymbols (.ofDialect dialect) options db).contains template = true) →
        ∀ v ∈ templateVariables, options.customImports.has v = true →
          IsRoot (.ofDialect dialect) options db v ∧ (v ∈ inferredVariables →
            (moduleSymbols (.ofDialect dialect) options db).name? v = some v)) ∧
      ∀ name, ColumnBinds (.ofDialect dialect) options db name →
        NeededFreely (.ofDialect dialect) options db name := by
  constructor
  · intro hkeeps
    refine ⟨?_, fun name _ => hkeeps.needed name⟩
    rintro ⟨template, htemplate, hcontains⟩ v hv hcustom
    obtain ⟨e, hfound, hrenamed⟩ := exists_find?_of_customImport htemplate hcontains hv hcustom
    exact ⟨isRoot_of_reachedFreely hv (hkeeps.needed v e hfound hrenamed),
      name?_of_keepsVariables hkeeps htemplate hcontains hcustom⟩
  · rintro ⟨himports, hcolumns⟩
    refine (keepsVariables_iff_bound _ _ _).mpr ⟨?_, ?_, hcolumns⟩
    · intro id e params body hfound hsymbol q hq n _ hscope hparam e' hfound' _
      obtain ⟨htemplate, ⟨-, h⟩ | hinferred⟩ := scope_of_find? hfound hsymbol hq hscope
      · exact absurd h hparam
      · have hv : n ∈ templateVariables := List.mem_cons_of_mem _ hinferred
        have hname := (himports htemplate n hv (customImport_of_find? hv hfound')).2 hinferred
        simpa [name?, hfound'] using hname
    · rintro name ⟨id, d, hget, q, hq, -, hscope⟩ e' hfound' _
      obtain ⟨e, hfound, hsymbol⟩ := Option.map_eq_some_iff.mp hget
      obtain ⟨htemplate, hvariable⟩ := scope_of_find? hfound hsymbol hq hscope
      have hv : name ∈ templateVariables := by
        rcases hvariable with ⟨rfl, -⟩ | hinferred
        · decide
        · exact List.mem_cons_of_mem _ hinferred
      exact .root (himports htemplate name hv (customImport_of_find? hv hfound')).1

end

/-- An import that is called like a variable comes into the file although no column refers to it.
Beside a table that takes its name the helper type is declared with the display name of the import
in place of its variable. -/
theorem not_keepsVariables_of_units_import :
    let options : Options := { customImports := [("U", "./units")] }
    let db : Database :=
      { tables := [{ schema := none, name := "u",
                     columns := [{ Column.ofType "id" "integer" with hasDefault := true }] }]
        enums := [] }
    moduleStatements .sqlite options db =
      [.imports "./units" [{ name := "U", local? := some "U2" }],
        .imports "kysely" [{ name := "ColumnType", local? := none }],
        .exports (.typeAlias "Generated" (.template ["T"] (.conditional "T" Profile.inferredColumn
          (columnType (named "S") (Profile.names ["I", "undefined"]) (named "U2"))
          (columnType (named "T") (Profile.names ["T", "undefined"]) (named "T"))))),
        .exports (.interface "U"
          [{ key := "id", value := .generic "Generated" [named "number"], comment := none }]),
        .exports (.interface "DB" [{ key := "u", value := .name "U" true, comment := none }])] ∧
    ¬KeepsVariables .sqlite options db := by
  intro options db
  refine ⟨by cbv, fun hkeeps => ?_⟩
  have htemplate : "Generated" ∈ templateNames := by decide
  have hcontains : (moduleSymbols (.ofDialect .sqlite) options db).contains "Generated" = true := by
    cbv
  have hcustom : options.customImports.has "U" = true := by decide
  have hkept : KeepsVariables (.ofDialect .sqlite) options db := hkeeps
  have hown := name?_of_keepsVariables hkept htemplate hcontains hcustom (by decide)
  have hdisplayed : (moduleSymbols (.ofDialect .sqlite) options db).name? "U" = some "U2" := by cbv
  rw [hdisplayed] at hown
  exact absurd hown (by decide)

end TableTypes
