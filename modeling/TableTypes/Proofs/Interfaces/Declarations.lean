import Mathlib
import TableTypes.Proofs.Dictionary
import TableTypes.Proofs.Interfaces.Registrations
import TableTypes.Proofs.RelatedLists

/-!
# What a file declares

Each symbol that is no table is declared once under its display name, as an import, an enum or an
alias, and each table has an interface under the display name of its symbol. The names bound at the
top level of a file are these and the name of the interface that lists all tables.

Mathlib is imported whole here, and in no other module: where later modules compute the file for a
given database, `cbv` opens the library's functions on characters and bytes by equations that none of
its narrower modules has.
-/

namespace TableTypes

open TypeScript SymbolTable

/-! ## The parts of a file -/

/-- All that the declarations of the file for a database depend on besides its tables. -/
def moduleContext (profile : Profile) (options : Options) (db : Database) : Context :=
  { profile, options, enums := db.enums }

/-- The interfaces of the tables of a database, whose types still refer to symbols by id. -/
def moduleInterfaces (profile : Profile) (options : Options) (db : Database) : List Interface :=
  ((moduleContext profile options db).tableInterfaces (.empty .pascal)
    (db.tables.mergeSort Table.precedes)).1

/-- The symbols of the file for a database. -/
def moduleSymbols (profile : Profile) (options : Options) (db : Database) : Symbols :=
  ((moduleContext profile options db).tableInterfaces (.empty .pascal)
    (db.tables.mergeSort Table.precedes)).2

/-- The declarations before the interface that lists all tables. -/
def sortedDeclarations (symbols : Symbols) (interfaces : List Interface) : List Declaration :=
  sortDeclarations (enumDeclarations symbols) ++ sortDeclarations (aliasDeclarations symbols) ++
    sortDeclarations (interfaces.map (Interface.declaration symbols))

/-- The properties of the interface that lists the tables of a database. -/
def moduleTables (profile : Profile) (options : Options) (db : Database) : Members :=
  (moduleContext profile options db).databaseMembers (moduleSymbols profile options db)
    (db.tables.mergeSort Table.precedes)

/-- The import statements of some clauses by module. -/
def importStatements (clauses : Dictionary (List ImportClause)) : List Statement :=
  clauses.map fun (path, clauses) => .imports path clauses

/-- A module has its imports, then its declarations in order, and the interface of the database
last. -/
theorem moduleStatements_eq (profile : Profile) (options : Options) (db : Database) :
    moduleStatements profile options db =
      importStatements (importClauses (moduleSymbols profile options db)) ++
        ((sortedDeclarations (moduleSymbols profile options db)
            (moduleInterfaces profile options db)).map .exports ++
          [.exports (.interface databaseName (moduleTables profile options db))]) := by
  unfold moduleStatements
  dsimp only
  rw [List.map_append]
  rfl

/-- The symbols of a file grow from none by what its tables register. -/
theorem grows_moduleSymbols (profile : Profile) (options : Options) (db : Database) :
    Grows ((moduleContext profile options db).Registers db.tables) (.empty .pascal)
      (moduleSymbols profile options db) :=
  (Context.grows_tableInterfaces _ _ _).mono fun _ hr =>
    hr.mono (List.mergeSort_perm db.tables Table.precedes).subset

/-- A registered id without a colon belongs to no table and no enum, so it is a name of the library
and has the symbol that the library has for it. -/
theorem symbol?_of_colon_notMem {profile : Profile} {options : Options} {db : Database}
    {id : String} {e : Entry Symbol} (hid : ':' ∉ id.toList)
    (hfound : (moduleSymbols profile options db).find? id = some e) :
    (moduleContext profile options db).library.symbol? id = some e.symbol := by
  rcases (grows_moduleSymbols _ _ _).find?_inv hfound with h | ⟨-, r, hr, rfl, hsymbol⟩
  · simp at h
  · cases hr with
    | table => exact absurd rfl (tableSymbolId_ne_of_colon_notMem hid _)
    | enum => exact absurd rfl (enumSymbolId_ne_of_colon_notMem hid _)
    | provided hprovides => rw [← hsymbol, hprovides.2]

/-- A name that is no id of a table or an enum and that the library does not know has no display
name. -/
theorem rename?_of_not_knows {profile : Profile} {options : Options} {db : Database} {id : String}
    (hid : ':' ∉ id.toList) (hfree : ¬(moduleContext profile options db).library.Knows id)
    (params : List String) : (moduleSymbols profile options db).rename? params id = none := by
  have hnone : (moduleSymbols profile options db).find? id = none := by
    cases hfound : (moduleSymbols profile options db).find? id with
    | none => rfl
    | some e =>
      have hsymbol := symbol?_of_colon_notMem hid hfound
      exact absurd (Library.knows_iff.mpr ⟨_, hsymbol⟩) hfree
  simp [rename?, hnone]

/-- Without imports of the user a file has the library of its dialect. -/
theorem library_moduleContext {options : Options} (himports : options.customImports = [])
    (profile : Profile) (db : Database) :
    (moduleContext profile options db).library = profile.library := by
  simp [Context.library, moduleContext, himports, Dictionary.override]

/-! ## Interfaces of tables -/

namespace Context

variable {ctx : Context}

/-- A property stands for a column of a table, with its key, its comment and its type. -/
structure PropertyOf (ctx : Context) (t : Table) (c : Column) (p : Property TypeExpr) : Prop where
  key : p.key = ctx.casedName c.name
  comment : p.comment = c.comment
  value : ∃ symbols, p.value = (ctx.columnType symbols t c).1

/-- An interface stands for a table, under the display name of its symbol and with its columns in
order. -/
structure InterfaceOf (ctx : Context) (symbols : Symbols) (t : Table) (i : Interface) : Prop where
  name : symbols.name? (tableSymbolId (ctx.tableIdentifier t)) = some i.name
  members : List.Forall₂ (ctx.PropertyOf t) t.columns i.members

/-- Each column gives one property. -/
theorem forall₂_columnMembers (ctx : Context) (t : Table) (symbols : Symbols)
    (columns : List Column) :
    List.Forall₂ (ctx.PropertyOf t) columns (ctx.columnMembers t symbols columns).1 := by
  induction columns generalizing symbols with
  | nil => exact .nil
  | cons c columns ih => exact .cons ⟨rfl, rfl, symbols, rfl⟩ (ih _)

/-- Display names stay while symbols grow. -/
theorem name?_of_grows {α : Type} {P : Registration α → Prop} {s t : SymbolTable α}
    {id name : String} (hgrows : Grows P s t) (hname : s.name? id = some name) :
    t.name? id = some name := by
  obtain ⟨e, hfound, rfl⟩ := Option.map_eq_some_iff.mp hname
  simp [SymbolTable.name?, hgrows.find? hfound]

/-- Each table gives one interface. -/
theorem forall₂_tableInterfaces (ctx : Context) (symbols : Symbols) (tables : List Table) :
    List.Forall₂ (ctx.InterfaceOf (ctx.tableInterfaces symbols tables).2) tables
      (ctx.tableInterfaces symbols tables).1 := by
  induction tables generalizing symbols with
  | nil => exact .nil
  | cons t tables ih =>
    refine .cons ⟨?_, forall₂_columnMembers ctx t _ _⟩ (ih _)
    have hregistered := name?_add_self symbols (ctx.tableRegistration t)
    have hcolumns : Grows (fun _ => True) (symbols.add (ctx.tableRegistration t))
        (ctx.columnMembers t (symbols.add (ctx.tableRegistration t)) t.columns).2 := by
      refine columnMembers_preserves (motive := Grows (fun _ => True) _) ?_ ?_ (.refl _)
      · intro s c _ typeId labels _ hgrows
        exact hgrows.add trivial
      · intro s names hgrows
        exact hgrows.trans ((ctx.library.grows_collectNames s names).mono fun _ _ => trivial)
    exact name?_of_grows (grows_tableInterfaces ctx _ tables)
      (name?_of_grows hcolumns hregistered)

end Context

/-- Each table of a database, in order, gives one interface. -/
theorem forall₂_moduleInterfaces (profile : Profile) (options : Options) (db : Database) :
    List.Forall₂
      ((moduleContext profile options db).InterfaceOf (moduleSymbols profile options db))
      (db.tables.mergeSort Table.precedes) (moduleInterfaces profile options db) :=
  Context.forall₂_tableInterfaces _ _ _

/-- Each table of a database has an interface. -/
theorem exists_interfaceOf (profile : Profile) (options : Options) {db : Database} {t : Table}
    (ht : t ∈ db.tables) :
    ∃ i ∈ moduleInterfaces profile options db,
      (moduleContext profile options db).InterfaceOf (moduleSymbols profile options db) t i :=
  exists_of_mem_of_forall₂ (forall₂_moduleInterfaces profile options db)
    (List.mem_mergeSort.mpr ht)

/-! ## Imports, enums and aliases -/

/-- The import clause of an entry, if it is one of an import. -/
def importClause? (e : Entry Symbol) : Option ImportClause :=
  match e.symbol with
  | .imported reference => some (importClause e.id e.name reference)
  | _ => none

/-- An import is bound to the display name of its symbol. -/
theorem bound_importClause (id name : String) (reference : ModuleExport) :
    (importClause id name reference).bound = name := by
  unfold importClause ImportClause.bound
  dsimp only
  split <;> simp_all

/-- Adds the clause of an entry that is an import to those of its module. -/
def addImport (clauses : Dictionary (List ImportClause)) (e : Entry Symbol) :
    Dictionary (List ImportClause) :=
  match e.symbol with
  | .imported reference =>
    clauses.put reference.path
      ((clauses.get? reference.path).getD [] ++ [importClause e.id e.name reference])
  | _ => clauses

/-- The clauses of the imports are gathered from the symbols in their order. -/
theorem importClauses_eq (symbols : Symbols) :
    importClauses symbols = symbols.entries.foldl addImport [] := rfl

/-- Adding imports adds their clauses to those of all modules. -/
theorem flatMap_foldl_addImport {clauses : Dictionary (List ImportClause)}
    (hclauses : clauses.Ascending) (entries : List (Entry Symbol)) :
    ((entries.foldl addImport clauses).flatMap (·.2)).Perm
      (clauses.flatMap (·.2) ++ entries.filterMap importClause?) := by
  induction entries generalizing clauses with
  | nil => simp
  | cons e entries ih =>
    rw [List.foldl_cons, List.filterMap_cons]
    cases hsymbol : e.symbol with
    | imported reference =>
      simp only [addImport, importClause?, hsymbol]
      refine (ih (hclauses.put _ _)).trans ?_
      refine ((Dictionary.flatMap_put_append hclauses _ _).append_right _).trans ?_
      rw [List.append_assoc]
      exact .refl _
    | table => simpa only [addImport, importClause?, hsymbol] using ih hclauses
    | definition body => simpa only [addImport, importClause?, hsymbol] using ih hclauses
    | enum typeId members => simpa only [addImport, importClause?, hsymbol] using ih hclauses

/-- The import clauses by module are those of all entries. -/
theorem flatMap_importClauses_perm (symbols : Symbols) :
    ((importClauses symbols).flatMap (·.2)).Perm (symbols.entries.filterMap importClause?) := by
  rw [importClauses_eq]
  exact flatMap_foldl_addImport List.Pairwise.nil symbols.entries

/-- The display names of the symbols that are no tables. -/
def declaredNames (symbols : Symbols) : List String :=
  (symbols.entries.filter (·.symbol.isRenamed)).map (·.name)

/-- Sorting declarations loses none. -/
theorem sortDeclarations_perm (ds : List Declaration) : (sortDeclarations ds).Perm ds :=
  List.mergeSort_perm ds _

/-- Imports, enums and aliases declare each symbol that is no table once. -/
theorem declaredNames_perm (symbols : Symbols) :
    ((symbols.entries.filterMap importClause?).map ImportClause.bound ++
      ((enumDeclarations symbols).map Declaration.name ++
        (aliasDeclarations symbols).map Declaration.name)).Perm (declaredNames symbols) := by
  obtain ⟨style, entries, names⟩ := symbols
  unfold enumDeclarations aliasDeclarations declaredNames
  dsimp only
  -- The aliases are renamed by the whole table, which must not shrink with the list of entries.
  generalize { style, entries, names : Symbols } = symbols
  induction entries with
  | nil => exact .refl _
  | cons e entries ih =>
    simp only [List.filterMap_cons, List.filter_cons]
    cases hsymbol : e.symbol with
    | table => simpa [importClause?, hsymbol, Symbol.isRenamed] using ih
    | imported reference =>
      simpa [importClause?, hsymbol, Symbol.isRenamed, bound_importClause] using ih
    | enum typeId members =>
      simp only [importClause?, hsymbol, Symbol.isRenamed, if_true, List.map_cons,
        Declaration.name, List.cons_append]
      exact List.perm_middle.trans (ih.cons _)
    | definition body =>
      simp only [importClause?, hsymbol, Symbol.isRenamed, if_true, List.map_cons,
        Declaration.name]
      rw [← List.append_assoc] at ih ⊢
      exact List.perm_middle.trans (ih.cons _)

/-! ## The declaration of a symbol -/

section

variable {profile : Profile} {options : Options} {db : Database} {id : String} {e : Entry Symbol}

/-- What is declared by an enum, an alias or an interface is exported. -/
theorem exports_mem_moduleStatements {declaration : Declaration}
    (hdeclaration : declaration ∈ enumDeclarations (moduleSymbols profile options db) ++
      aliasDeclarations (moduleSymbols profile options db) ++
      (moduleInterfaces profile options db).map
        (Interface.declaration (moduleSymbols profile options db))) :
    .exports declaration ∈ moduleStatements profile options db := by
  rw [moduleStatements_eq, sortedDeclarations]
  refine List.mem_append_right _ (List.mem_append_left _ (List.mem_map_of_mem ?_))
  simpa only [List.mem_append, (sortDeclarations_perm _).mem_iff] using hdeclaration

/-- A registered definition is exported as an alias. -/
theorem typeAlias_mem_moduleStatements {d : Definition}
    (hfound : (moduleSymbols profile options db).find? id = some e)
    (hsymbol : e.symbol = .definition d) :
    .exports (.typeAlias e.name (d.rename (moduleSymbols profile options db))) ∈
      moduleStatements profile options db := by
  refine exports_mem_moduleStatements (List.mem_append_left _ (List.mem_append_right _ ?_))
  exact List.mem_filterMap.mpr ⟨e, List.mem_of_find?_eq_some hfound, by simp [hsymbol]⟩

/-- A registered enum is exported. -/
theorem enum_mem_moduleStatements {typeId : String} {members : List EnumMember}
    (hfound : (moduleSymbols profile options db).find? id = some e)
    (hsymbol : e.symbol = .enum typeId members) :
    .exports (.enum e.name members) ∈ moduleStatements profile options db := by
  refine exports_mem_moduleStatements (List.mem_append_left _ (List.mem_append_left _ ?_))
  exact List.mem_filterMap.mpr ⟨e, List.mem_of_find?_eq_some hfound, by simp [hsymbol]⟩

/-- The interface of a table is exported. -/
theorem interface_mem_moduleStatements {i : Interface}
    (hi : i ∈ moduleInterfaces profile options db) :
    .exports (i.declaration (moduleSymbols profile options db)) ∈
      moduleStatements profile options db :=
  exports_mem_moduleStatements (List.mem_append_right _ (List.mem_map_of_mem hi))

/-- A registered import is bound by an import statement. -/
theorem exists_imports_mem_moduleStatements {reference : ModuleExport}
    (hfound : (moduleSymbols profile options db).find? id = some e)
    (hsymbol : e.symbol = .imported reference) :
    ∃ path clauses, .imports path clauses ∈ moduleStatements profile options db ∧
      e.name ∈ clauses.map ImportClause.bound := by
  have hclause : importClause e.id e.name reference ∈
      (moduleSymbols profile options db).entries.filterMap importClause? :=
    List.mem_filterMap.mpr ⟨e, List.mem_of_find?_eq_some hfound, by simp [importClause?, hsymbol]⟩
  rw [← (flatMap_importClauses_perm _).mem_iff] at hclause
  obtain ⟨⟨path, clauses⟩, hmem, hclause⟩ := List.mem_flatMap.mp hclause
  refine ⟨path, clauses, ?_, ?_⟩
  · rw [moduleStatements_eq]
    exact List.mem_append_left _ (List.mem_map.mpr ⟨_, hmem, rfl⟩)
  · exact List.mem_map.mpr ⟨_, hclause, bound_importClause _ _ _⟩

end

/-! ## Names -/

/-- The names that a statement binds at the top level of a file. -/
def TypeScript.Statement.bound : Statement → List String
  | .imports _ clauses => clauses.map ImportClause.bound
  | .exports declaration => [declaration.name]

/-- The names bound at the top level of a file. -/
def TypeScript.boundNames (statements : List Statement) : List String :=
  statements.flatMap Statement.bound

/-- A statement binds its names before those of the rest. -/
theorem boundNames_cons (statement : Statement) (rest : List Statement) :
    boundNames (statement :: rest) = statement.bound ++ boundNames rest :=
  List.flatMap_cons

/-- The names that statements bind are bound one after another. -/
theorem boundNames_append (before after : List Statement) :
    boundNames (before ++ after) = boundNames before ++ boundNames after :=
  List.flatMap_append

/-- A declaration binds its own name. -/
theorem boundNames_exports (declarations : List Declaration) :
    boundNames (declarations.map .exports) = declarations.map Declaration.name := by
  induction declarations with
  | nil => rfl
  | cons d ds ih => simpa [boundNames, Statement.bound] using ih

/-- Imports bind the names of their clauses. -/
theorem boundNames_importStatements (clauses : Dictionary (List ImportClause)) :
    boundNames (importStatements clauses) =
      (clauses.flatMap (·.2)).map ImportClause.bound := by
  induction clauses with
  | nil => rfl
  | cons entry rest ih => simpa [boundNames, importStatements, Statement.bound] using ih

/-- The names bound in the file for a database are those of its symbols that are no tables, those of
the interfaces of its tables, and the name of the interface that lists them. -/
theorem boundNames_perm (profile : Profile) (options : Options) (db : Database) :
    (boundNames (moduleStatements profile options db)).Perm
      (declaredNames (moduleSymbols profile options db) ++
        ((moduleInterfaces profile options db).map (·.name) ++ [databaseName])) := by
  rw [moduleStatements_eq, boundNames_append, boundNames_append, boundNames_importStatements,
    boundNames_exports, sortedDeclarations]
  generalize moduleSymbols profile options db = symbols
  generalize moduleInterfaces profile options db = interfaces
  have himports := (flatMap_importClauses_perm symbols).map ImportClause.bound
  have henums := (sortDeclarations_perm (enumDeclarations symbols)).map Declaration.name
  have haliases := (sortDeclarations_perm (aliasDeclarations symbols)).map Declaration.name
  have hinterfaces : ((sortDeclarations (interfaces.map (Interface.declaration symbols))).map
      Declaration.name).Perm (interfaces.map (·.name)) := by
    refine ((sortDeclarations_perm _).map Declaration.name).trans (.of_eq ?_)
    rw [List.map_map]
    rfl
  have hlast : boundNames [.exports (.interface databaseName (moduleTables profile options db))] =
      [databaseName] := rfl
  rw [List.map_append, List.map_append, hlast, ← List.append_assoc, ← List.append_assoc,
    ← List.append_assoc (declaredNames symbols)]
  refine List.Perm.append_right _ (List.Perm.append ?_ hinterfaces)
  exact (himports.append (henums.append haliases)).trans (declaredNames_perm symbols)

end TableTypes
