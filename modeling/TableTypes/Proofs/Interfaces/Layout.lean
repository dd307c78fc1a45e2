import TableTypes.Proofs.ImportSpecs
import TableTypes.Proofs.Interfaces.Tables
import TableTypes.Proofs.Symbol.GivenNames

/-!
# The order of a file

A file consists of five blocks: imports, enums, aliases, the interfaces of tables, and the interface
that lists all tables. Main statement: each block is in ascending order, and each symbol contributes
one clause or declaration to the block of its kind. A table may be called like the last interface;
its own interface stands among those of the tables.
-/

namespace TableTypes

open TypeScript SymbolTable

/-- The blocks of a file: the clauses of imports by module, the enums, aliases and interfaces of
tables by name, and the properties of the interface that lists all tables. -/
structure Blocks where
  imports : Dictionary (List ImportClause)
  enums : List (String × List EnumMember)
  aliases : List (String × Definition)
  interfaces : List (String × Members)
  listed : Members

/-- The statements of a file with the given blocks. -/
def Blocks.statements (b : Blocks) : List Statement :=
  importStatements b.imports ++
    (b.enums.map (fun p => Declaration.enum p.1 p.2) ++
      b.aliases.map (fun p => Declaration.typeAlias p.1 p.2) ++
      b.interfaces.map (fun p => Declaration.interface p.1 p.2) ++
      [Declaration.interface databaseName b.listed]).map .exports

/-- A clause imports the export of a symbol from a module under its display name, which it states
where it is another name than that of the export. -/
structure Imports (path : String) (e : SymbolTable.Entry Symbol) (clause : ImportClause) :
    Prop where
  symbol : ∃ exported, e.symbol = .imported { path, exported } ∧ clause.name = exported.getD e.id
  bound : clause.bound = e.name
  renamed : clause.local?.isSome = true ↔ e.name ≠ clause.name

/-- Whether a symbol is an import from a module. -/
def Symbol.isImportFrom (path : String) : Symbol → Bool
  | imported reference => reference.path = path
  | table => false
  | definition _ => false
  | enum _ _ => false

/-- The enum that an entry declares, with its name. -/
def declaredEnum? (e : SymbolTable.Entry Symbol) : Option (String × List EnumMember) :=
  match e.symbol with
  | .enum _ members => some (e.name, members)
  | _ => none

/-- The alias that an entry declares, with its name. -/
def declaredAlias? (symbols : Symbols) (e : SymbolTable.Entry Symbol) :
    Option (String × Definition) :=
  match e.symbol with
  | .definition d => some (e.name, d.rename symbols)
  | _ => none

/-- Blocks are in canonical order and hold each symbol once: the modules that some symbol is
imported from ascend, and each has one clause for each symbol from it in the order of ids; enums,
aliases and the interfaces of tables ascend by name, one for each symbol and each table; and tables
are listed in ascending order of their identifiers. -/
structure Canonical (ctx : Context) (tables : List Table) (symbols : Symbols) (b : Blocks) :
    Prop where
  ids : symbols.entries.Pairwise fun e f => e.id < f.id
  modules : b.imports.Pairwise fun p q => p.1 < q.1
  imported : ∀ path, path ∈ b.imports.keys ↔
    ∃ e ∈ symbols.entries, e.symbol.isImportFrom path = true
  clauses : ∀ p ∈ b.imports,
    List.Forall₂ (Imports p.1) (symbols.entries.filter (·.symbol.isImportFrom p.1)) p.2
  enums_ascend : b.enums.Pairwise fun p q => p.1 ≤ q.1
  enums : b.enums.Perm (symbols.entries.filterMap declaredEnum?)
  aliases_ascend : b.aliases.Pairwise fun p q => p.1 ≤ q.1
  aliases : b.aliases.Perm (symbols.entries.filterMap (declaredAlias? symbols))
  interfaces_ascend : b.interfaces.Pairwise fun p q => p.1 ≤ q.1
  interfaces : ∃ is, List.Forall₂ (ctx.InterfaceOf symbols) tables is ∧
    b.interfaces.Perm (is.map fun i => (i.name, renameProperties symbols [] i.members))
  keys_ascend : b.listed.Pairwise fun p q => p.key < q.key
  listed : ∀ p, p ∈ b.listed ↔ ∃ t ∈ tables, ∃ name,
    symbols.name? (tableSymbolId (ctx.tableIdentifier t)) = some name ∧
      p = listedTable (ctx.tableIdentifier t) name

/-! ## Imports -/

/-- The clause of an imported symbol imports it. -/
theorem imports_importClause (e : SymbolTable.Entry Symbol) {path : String}
    {exported : Option String} (hsymbol : e.symbol = .imported { path, exported }) :
    Imports path e (importClause e.id e.name { path, exported }) where
  symbol := ⟨exported, hsymbol, rfl⟩
  bound := bound_importClause _ _ _
  renamed := by
    unfold importClause
    dsimp only
    split
    · next h => simp [h]
    · next h => simpa using Ne.symm h

/-- The clauses of a module are those of the imports from it, in the order of the entries. -/
theorem forall₂_importClauseFrom? (path : String) (entries : List (SymbolTable.Entry Symbol)) :
    List.Forall₂ (Imports path) (entries.filter (·.symbol.isImportFrom path))
      (entries.filterMap (importClauseFrom? path)) := by
  induction entries with
  | nil => exact .nil
  | cons e entries ih =>
    rw [List.filter_cons, List.filterMap_cons]
    cases hsymbol : e.symbol with
    | imported reference =>
      simp only [importClauseFrom?, hsymbol, Symbol.isImportFrom, decide_eq_true_eq]
      split
      · next hpath =>
        subst hpath
        exact .cons (imports_importClause e hsymbol) ih
      · exact ih
    | table => simpa [importClauseFrom?, hsymbol, Symbol.isImportFrom] using ih
    | definition d => simpa [importClauseFrom?, hsymbol, Symbol.isImportFrom] using ih
    | enum typeId members => simpa [importClauseFrom?, hsymbol, Symbol.isImportFrom] using ih

/-- A module is imported when one of the entries is an import from it. -/
theorem mem_keys_foldl_addImport {path : String} (clauses : Dictionary (List ImportClause))
    (entries : List (SymbolTable.Entry Symbol)) :
    path ∈ (entries.foldl addImport clauses).keys ↔
      path ∈ clauses.keys ∨ ∃ e ∈ entries, e.symbol.isImportFrom path = true := by
  induction entries generalizing clauses with
  | nil => simp
  | cons e entries ih =>
    rw [List.foldl_cons, ih, List.exists_mem_cons_iff, ← or_assoc]
    refine or_congr_left ?_
    cases hsymbol : e.symbol with
    | imported reference =>
      simp only [addImport, hsymbol, Symbol.isImportFrom, Dictionary.mem_keys_put,
        decide_eq_true_eq]
      rw [or_comm, eq_comm]
    | table => simp [addImport, hsymbol, Symbol.isImportFrom]
    | definition d => simp [addImport, hsymbol, Symbol.isImportFrom]
    | enum typeId members => simp [addImport, hsymbol, Symbol.isImportFrom]

/-- The modules of the imports stand in order. -/
theorem ascending_importClauses (symbols : Symbols) : (importClauses symbols).Ascending := by
  rw [importClauses_eq]
  exact ascending_foldl_addImport .nil _

/-- The modules of the imports are those that a symbol is imported from. -/
theorem mem_keys_importClauses {symbols : Symbols} {path : String} :
    path ∈ (importClauses symbols).keys ↔
      ∃ e ∈ symbols.entries, e.symbol.isImportFrom path = true := by
  rw [importClauses_eq, mem_keys_foldl_addImport]
  simp [Dictionary.keys]

/-- The clauses of a module import its symbols one by one, in the order of the symbols. -/
theorem forall₂_of_mem_importClauses {symbols : Symbols} {p : String × List ImportClause}
    (hp : p ∈ importClauses symbols) :
    List.Forall₂ (Imports p.1) (symbols.entries.filter (·.symbol.isImportFrom p.1)) p.2 := by
  have hget := (ascending_importClauses symbols).get?_eq_some_iff.mpr hp
  have hclauses := get?_foldl_addImport [] p.1 symbols.entries
  rw [← importClauses_eq, hget] at hclauses
  have hvalue : p.2 = symbols.entries.filterMap (importClauseFrom? p.1) := hclauses
  rw [hvalue]
  exact forall₂_importClauseFrom? p.1 symbols.entries

/-! ## Declarations by name -/

/-- Named things in ascending order of their names. -/
def sortNamed {β : Type} (ps : List (String × β)) : List (String × β) :=
  ps.mergeSort fun p q => p.1 ≤ q.1

/-- Sorting keeps what is sorted. -/
theorem sortNamed_perm {β : Type} (ps : List (String × β)) : (sortNamed ps).Perm ps :=
  List.mergeSort_perm ps _

/-- Sorted by their names, declarations stand in order. -/
theorem pairwise_sortNamed {β : Type} (ps : List (String × β)) :
    (sortNamed ps).Pairwise fun p q => p.1 ≤ q.1 := by
  have hsorted : (sortNamed ps).Pairwise fun p q => decide (p.1 ≤ q.1) = true := by
    refine List.pairwise_mergeSort (fun p q r hpq hqr => ?_) (fun p q => ?_) ps
    · exact decide_eq_true (String.le_trans (of_decide_eq_true hpq) (of_decide_eq_true hqr))
    · simpa using String.le_total p.1 q.1
  exact hsorted.imp of_decide_eq_true

/-- Declarations are sorted by the names that they declare. -/
theorem sortDeclarations_map {β : Type} {declare : String × β → Declaration}
    (hname : ∀ p, (declare p).name = p.1) (ps : List (String × β)) :
    sortDeclarations (ps.map declare) = (sortNamed ps).map declare := by
  rw [sortDeclarations, sortNamed, List.map_mergeSort]
  intro p _ q _
  rw [hname, hname]

/-- The declarations of enums are those of the symbols that declare one. -/
theorem enumDeclarations_eq (symbols : Symbols) :
    enumDeclarations symbols =
      (symbols.entries.filterMap declaredEnum?).map fun p => .enum p.1 p.2 := by
  rw [enumDeclarations, List.map_filterMap]
  refine List.filterMap_congr fun e _ => ?_
  unfold declaredEnum?
  cases e.symbol <;> rfl

/-- The declarations of aliases are those of the symbols that declare one. -/
theorem aliasDeclarations_eq (symbols : Symbols) :
    aliasDeclarations symbols =
      (symbols.entries.filterMap (declaredAlias? symbols)).map fun p => .typeAlias p.1 p.2 := by
  rw [aliasDeclarations, List.map_filterMap]
  refine List.filterMap_congr fun e _ => ?_
  unfold declaredAlias?
  cases e.symbol <;> rfl

/-! ## The blocks of a file -/

/-- The blocks of the file for a database. -/
def moduleBlocks (profile : Profile) (options : Options) (db : Database) : Blocks where
  imports := importClauses (moduleSymbols profile options db)
  enums := sortNamed ((moduleSymbols profile options db).entries.filterMap declaredEnum?)
  aliases := sortNamed ((moduleSymbols profile options db).entries.filterMap
    (declaredAlias? (moduleSymbols profile options db)))
  interfaces := sortNamed ((moduleInterfaces profile options db).map fun i =>
    (i.name, renameProperties (moduleSymbols profile options db) [] i.members))
  listed := moduleTables profile options db

/-- A file is its blocks. -/
theorem moduleStatements_eq_blocks (profile : Profile) (options : Options) (db : Database) :
    moduleStatements profile options db = (moduleBlocks profile options db).statements := by
  rw [moduleStatements_eq, sortedDeclarations, enumDeclarations_eq, aliasDeclarations_eq,
    sortDeclarations_map (fun _ => rfl), sortDeclarations_map (fun _ => rfl)]
  have hinterfaces : (moduleInterfaces profile options db).map
      (Interface.declaration (moduleSymbols profile options db)) =
      ((moduleInterfaces profile options db).map fun i =>
        (i.name, renameProperties (moduleSymbols profile options db) [] i.members)).map
        fun p => .interface p.1 p.2 := by
    rw [List.map_map]
    rfl
  rw [hinterfaces, sortDeclarations_map (fun _ => rfl), Blocks.statements]
  simp only [moduleBlocks, List.map_append, List.map_cons, List.map_nil, List.append_assoc]

/-- The blocks of a file are in canonical order and hold each symbol and each table once. -/
theorem canonical_moduleBlocks (profile : Profile) (options : Options) (db : Database) :
    Canonical (moduleContext profile options db) db.tables (moduleSymbols profile options db)
      (moduleBlocks profile options db) where
  ids := by
    obtain ⟨history, hhistory⟩ := (grows_moduleSymbols profile options db).exists_registered
    rw [hhistory]
    exact pairwise_registered .pascal history
  modules := ascending_importClauses _
  imported := fun _ => mem_keys_importClauses
  clauses := fun _ hp => forall₂_of_mem_importClauses hp
  enums_ascend := pairwise_sortNamed _
  enums := sortNamed_perm _
  aliases_ascend := pairwise_sortNamed _
  aliases := sortNamed_perm _
  interfaces_ascend := pairwise_sortNamed _
  interfaces := by
    obtain ⟨is, his, hperm⟩ := List.perm_comp_forall₂
      (List.mergeSort_perm db.tables Table.precedes).symm
      (forall₂_moduleInterfaces profile options db)
    exact ⟨is, his, (sortNamed_perm _).trans (hperm.symm.map _)⟩
  keys_ascend := Context.pairwise_databaseMembers _
  listed := fun p => by
    refine Context.mem_databaseMembers_iff.trans ?_
    simp only [List.mem_mergeSort]

/-- The statements of a file are its imports, then its enums, its aliases and the interfaces of its
tables, and last one interface that lists all tables, in canonical order and with each symbol and
each table once. -/
theorem exists_canonical_blocks (profile : Profile) (options : Options) (db : Database) :
    ∃ b : Blocks, moduleStatements profile options db = b.statements ∧
      Canonical (moduleContext profile options db) db.tables (moduleSymbols profile options db) b :=
  ⟨moduleBlocks profile options db, moduleStatements_eq_blocks profile options db,
    canonical_moduleBlocks profile options db⟩

end TableTypes
