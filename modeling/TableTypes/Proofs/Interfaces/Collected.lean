import TableTypes.Proofs.Interfaces.Declarations

/-!
# Why a symbol is registered

A helper type or an import comes into a file because a column's type refers to it, because it is the
namespace of a mapped type, or because the definition of a registered helper type refers to it. So
what holds of the names in the columns' types, and passes from a registered helper type to what it
refers to, holds of all helper types and imports of the file.
-/

namespace TableTypes

open TypeScript SymbolTable
open TypeScript.TypeExpr (named unionOf)

/-! ## Collecting -/

/-- A table holds all entries of another one. -/
def SymbolTable.Extends {α : Type} (final s : SymbolTable α) : Prop :=
  ∀ id e, s.find? id = some e → final.find? id = some e

/-- What a table grows to extends it. -/
theorem SymbolTable.Grows.extends {α : Type} {P : Registration α → Prop} {s t : SymbolTable α}
    (hst : Grows P s t) : t.Extends s :=
  fun _ _ => hst.find?

/-- Extending is passed on from table to table. -/
theorem SymbolTable.Extends.trans {α : Type} {s t u : SymbolTable α} (hut : u.Extends t)
    (hts : t.Extends s) : u.Extends s :=
  fun id e h => hut id e (hts id e h)

/-- A property of names passes from a helper type to what it refers to, if it is among the symbols
of a table under its name. -/
def Library.Passes (lib : Library) (final : Symbols) (P : String → Prop) : Prop :=
  ∀ name symbol, lib.symbol? name = some symbol → final.get? name = some symbol → P name →
    ∀ other ∈ symbol.references, P other

/-- What holds of the collected names and passes on holds of all names that are registered. -/
theorem Library.grows_collectNames_of {lib : Library} {final : Symbols} {P : String → Prop}
    (hpass : lib.Passes final P) {symbols : Symbols} {names : List String}
    (hfinal : final.Extends (lib.collectNames symbols names)) (hnames : ∀ n ∈ names, P n) :
    Grows (fun r => lib.Provides r ∧ P r.id) symbols (lib.collectNames symbols names) := by
  induction symbols, names using collectNames.induct lib with
  | case1 symbols =>
    rw [collectNames]
    exact .refl _
  | case2 symbols name names ih =>
    rw [collectNames] at hfinal ⊢
    have hname : P name := hnames name (by simp)
    have hrest : ∀ n ∈ names, P n := fun n hn => hnames n (List.mem_cons_of_mem _ hn)
    obtain ⟨hvisit, -⟩ | ⟨symbol, hknown, hnew, hvisit⟩ := lib.visit_cases name symbols
    · rw [hvisit] at ih hfinal ⊢
      exact ih hfinal hrest
    · rw [hvisit] at ih hfinal ⊢
      let r : Registration Symbol := { id := name, source := name, symbol }
      have hregistered : (symbols.add r).get? name = some symbol := by
        have hnone : symbols.get? name = none := by
          simp [SymbolTable.get?, contains_eq_false_iff.mp hnew]
        rw [get?_add, hnone]
        simp [r]
      have hsymbol : final.get? name = some symbol := by
        obtain ⟨e, hfound, he⟩ := Option.map_eq_some_iff.mp hregistered
        have hlater := (lib.grows_collectNames (symbols.add r) (symbol.references ++ names)).find?
          hfound
        exact Option.map_eq_some_iff.mpr ⟨e, hfinal name e hlater, he⟩
      refine ((Grows.refl symbols).add (r := r) ⟨⟨rfl, hknown⟩, hname⟩).trans (ih hfinal ?_)
      intro n hn
      rcases List.mem_append.mp hn with hn | hn
      · exact hpass name symbol hknown hsymbol hname n hn
      · exact hrest n hn

namespace Context

variable {ctx : Context}

/-! ## One column -/

/-- The symbols with the enum that declares the type of a column, if one does. -/
def withEnum (ctx : Context) (symbols : Symbols) (t : Table) (c : Column) : Symbols :=
  match ctx.declaringEnum? t c with
  | some (typeId, labels) => symbols.add (ctx.enumRegistration typeId labels)
  | none => symbols

/-- The namespace of the type that is mapped to a column's data type, if it has one. -/
def namespaces (ctx : Context) (t : Table) (c : Column) : List String :=
  match ctx.findOverride? t c, ctx.mappedType? c (Unicode.lowercase c.dataType) with
  | none, some mapped =>
    ((Text.cut? '.' mapped.toList).map fun (space, _) => String.ofList space).toList
  | _, _ => []

/-- Of a mapped type the name before the first dot is collected, if it has a dot. -/
theorem collectNamespace_eq (ctx : Context) (symbols : Symbols) (mapped : String) :
    ctx.collectNamespace symbols mapped = ctx.library.collectNames symbols
      ((Text.cut? '.' mapped.toList).map fun (space, _) => String.ofList space).toList := by
  unfold collectNamespace
  split
  · next hcut => simp [hcut]
  · next hcut => simp [hcut, Library.collectNames]

/-- Typing a column registers the enum that declares its type, and then what its namespace and its
type refer to. -/
theorem columnType_symbols (ctx : Context) (symbols : Symbols) (t : Table) (c : Column) :
    (ctx.columnType symbols t c).2 =
      ctx.library.collect
        (ctx.library.collectNames (ctx.withEnum symbols t c) (ctx.namespaces t c))
        (ctx.columnType symbols t c).1 := by
  cases henum : ctx.declaringEnum? t c with
  | some declared =>
    obtain ⟨typeId, labels⟩ := declared
    obtain ⟨hoverride, hmapped, -⟩ := declaringEnum?_eq_some_iff.mp henum
    rw [columnType_of_declaringEnum henum]
    simp [withEnum, henum, namespaces, hoverride, hmapped, Library.collectNames]
  | none =>
    have hsame : ctx.withEnum symbols t c = symbols := by simp [withEnum, henum]
    rw [hsame]
    unfold columnType
    split
    · next o hoverride => simp [namespaces, hoverride, Library.collectNames]
    · next hoverride =>
      unfold inferredType baseTypes
      dsimp only
      split
      · next mapped hmapped =>
        simp [namespaces, hoverride, hmapped, collectNamespace_eq]
      · next hmapped =>
        have hspaces : ctx.namespaces t c = [] := by simp [namespaces, hoverride, hmapped]
        rw [hspaces, Library.collectNames]
        split
        · rfl
        · next hscalar =>
          split
          · next labels hlabels =>
            have hdeclaring :=
              declaringEnum?_eq_some_iff.mpr ⟨hoverride, hmapped, hscalar, hlabels, rfl⟩
            rw [henum] at hdeclaring
            cases hdeclaring
          · split
            · rfl
            · split <;> rfl

/-! ## The whole run -/

/-- The registrations that some tables lead to, where the names taken from the library have a
property. -/
inductive RegistersIn (ctx : Context) (tables : List Table) (P : String → Prop) :
    Registration Symbol → Prop where
  | table {t : Table} : t ∈ tables → RegistersIn ctx tables P (ctx.tableRegistration t)
  | enum {t : Table} {c : Column} {typeId : String} {labels : List String} : t ∈ tables →
      c ∈ t.columns → ctx.declaringEnum? t c = some (typeId, labels) →
      RegistersIn ctx tables P (ctx.enumRegistration typeId labels)
  | provided {r : Registration Symbol} : ctx.library.Provides r → P r.id →
      RegistersIn ctx tables P r

variable {tables : List Table} {P : String → Prop} {final : Symbols}

/-- What is registered for some tables is so for one more. -/
theorem RegistersIn.cons {t : Table} {r : Registration Symbol} (hr : ctx.RegistersIn tables P r) :
    ctx.RegistersIn (t :: tables) P r := by
  cases hr with
  | table ht => exact .table (List.mem_cons_of_mem _ ht)
  | enum ht hc henum => exact .enum (List.mem_cons_of_mem _ ht) hc henum
  | provided hr hP => exact .provided hr hP

/-- The type of a column registers nothing but what the names in it lead to. -/
theorem grows_columnType_of (hpass : ctx.library.Passes final P) {t : Table} (ht : t ∈ tables)
    {c : Column} (hc : c ∈ t.columns) {symbols : Symbols}
    (hfinal : final.Extends (ctx.columnType symbols t c).2)
    (hspaces : ∀ n ∈ ctx.namespaces t c, P n)
    (hreferences : ∀ n ∈ (ctx.columnType symbols t c).1.references, P n) :
    Grows (ctx.RegistersIn tables P) symbols (ctx.columnType symbols t c).2 := by
  have henum : Grows (ctx.RegistersIn tables P) symbols (ctx.withEnum symbols t c) := by
    unfold withEnum
    split
    · next typeId labels henum => exact (Grows.refl symbols).add (.enum ht hc henum)
    · exact .refl symbols
  have hprovided (r : Registration Symbol) (hr : ctx.library.Provides r ∧ P r.id) :
      ctx.RegistersIn tables P r := .provided hr.1 hr.2
  rw [columnType_symbols, Library.collect] at hfinal ⊢
  have hlater := ctx.library.grows_collectNames
    (ctx.library.collectNames (ctx.withEnum symbols t c) (ctx.namespaces t c))
    (ctx.columnType symbols t c).1.references
  have hspace := (Library.grows_collectNames_of hpass (hfinal.trans hlater.extends) hspaces).mono
    hprovided
  have htype := (Library.grows_collectNames_of hpass hfinal hreferences).mono hprovided
  exact henum.trans (hspace.trans htype)

/-- The members of a table let the symbols grow. -/
theorem grows_columnMembers (ctx : Context) (t : Table) (symbols : Symbols)
    (columns : List Column) :
    Grows (fun _ => True) symbols (ctx.columnMembers t symbols columns).2 := by
  refine columnMembers_preserves (motive := Grows (fun _ => True) symbols) ?_ ?_ (.refl symbols)
  · intro s c _ typeId labels _ hgrows
    exact hgrows.add trivial
  · intro s names hgrows
    exact hgrows.trans ((ctx.library.grows_collectNames s names).mono fun _ _ => trivial)

/-- The members of a table register nothing but what the names in them lead to. -/
theorem grows_columnMembers_of (hpass : ctx.library.Passes final P) {t : Table} (ht : t ∈ tables)
    {columns : List Column} (hcolumns : columns ⊆ t.columns) {symbols : Symbols}
    (hfinal : final.Extends (ctx.columnMembers t symbols columns).2)
    (hspaces : ∀ c ∈ columns, ∀ n ∈ ctx.namespaces t c, P n)
    (hmembers : ∀ p ∈ (ctx.columnMembers t symbols columns).1, ∀ n ∈ p.value.references, P n) :
    Grows (ctx.RegistersIn tables P) symbols (ctx.columnMembers t symbols columns).2 := by
  induction columns generalizing symbols with
  | nil => exact .refl symbols
  | cons c columns ih =>
    have hlater := grows_columnMembers ctx t (ctx.columnType symbols t c).2 columns
    have hfirst : Grows (ctx.RegistersIn tables P) symbols (ctx.columnType symbols t c).2 :=
      grows_columnType_of hpass ht (hcolumns (by simp)) (hfinal.trans hlater.extends)
        (hspaces c (by simp)) (hmembers _ List.mem_cons_self)
    refine hfirst.trans (ih ?_ hfinal ?_ ?_)
    · exact fun c' hc' => hcolumns (List.mem_cons_of_mem _ hc')
    · exact fun c' hc' => hspaces c' (List.mem_cons_of_mem _ hc')
    · exact fun p hp => hmembers p (List.mem_cons_of_mem _ hp)

/-- Interfaces register nothing but what the names in their members lead to. -/
theorem grows_tableInterfaces_of (hpass : ctx.library.Passes final P) {symbols : Symbols}
    (hfinal : final.Extends (ctx.tableInterfaces symbols tables).2)
    (hspaces : ∀ t ∈ tables, ∀ c ∈ t.columns, ∀ n ∈ ctx.namespaces t c, P n)
    (hmembers : ∀ i ∈ (ctx.tableInterfaces symbols tables).1, ∀ p ∈ i.members,
      ∀ n ∈ p.value.references, P n) :
    Grows (ctx.RegistersIn tables P) symbols (ctx.tableInterfaces symbols tables).2 := by
  induction tables generalizing symbols with
  | nil => exact .refl symbols
  | cons t tables ih =>
    have hlater := grows_tableInterfaces ctx (ctx.tableInterface symbols t).2 tables
    have hown : Grows (ctx.RegistersIn (t :: tables) P) (symbols.add (ctx.tableRegistration t))
        (ctx.tableInterface symbols t).2 :=
      grows_columnMembers_of hpass (by simp) (List.Subset.refl _) (hfinal.trans hlater.extends)
        (hspaces t (by simp)) (hmembers _ List.mem_cons_self)
    have htable : Grows (ctx.RegistersIn (t :: tables) P) symbols
        (symbols.add (ctx.tableRegistration t)) := (Grows.refl symbols).add (.table (by simp))
    refine (htable.trans hown).trans ((ih hfinal ?_ ?_).mono fun _ => .cons)
    · exact fun t' ht' => hspaces t' (List.mem_cons_of_mem _ ht')
    · exact fun i hi => hmembers i (List.mem_cons_of_mem _ hi)

/-! ## What types refer to -/

/-- Ids stay known while symbols grow. -/
theorem contains_of_grows {α : Type} {Q : Registration α → Prop} {s t : SymbolTable α} {id : String}
    (hgrows : Grows Q s t) (hcontains : s.contains id = true) : t.contains id = true := by
  obtain ⟨e, hfound⟩ := Option.isSome_iff_exists.mp hcontains
  simp [SymbolTable.contains, hgrows.find? hfound]

/-- The names in the type of a column that the library knows are registered. -/
theorem contains_columnType_of_mem {symbols : Symbols} {t : Table} {c : Column} {n : String}
    (hn : n ∈ (ctx.columnType symbols t c).1.references) (hknows : ctx.library.Knows n) :
    (ctx.columnType symbols t c).2.contains n = true := by
  rw [columnType_symbols]
  exact Library.contains_collectNames_of_mem hn hknows

/-- The names in the members of a table that the library knows are registered. -/
theorem contains_columnMembers_of_mem {symbols : Symbols} {t : Table} {columns : List Column}
    {p : Property TypeExpr} (hp : p ∈ (ctx.columnMembers t symbols columns).1) {n : String}
    (hn : n ∈ p.value.references) (hknows : ctx.library.Knows n) :
    (ctx.columnMembers t symbols columns).2.contains n = true := by
  induction columns generalizing symbols with
  | nil => cases hp
  | cons c columns ih =>
    rcases List.mem_cons.mp hp with rfl | hp
    · exact contains_of_grows (grows_columnMembers ctx t _ columns)
        (contains_columnType_of_mem hn hknows)
    · exact ih hp

/-- Whatever of the library the property of an interface refers to is registered. -/
theorem contains_tableInterfaces_of_mem {symbols : Symbols} {i : Interface}
    (hi : i ∈ (ctx.tableInterfaces symbols tables).1) {p : Property TypeExpr} (hp : p ∈ i.members)
    {n : String} (hn : n ∈ p.value.references) (hknows : ctx.library.Knows n) :
    (ctx.tableInterfaces symbols tables).2.contains n = true := by
  induction tables generalizing symbols with
  | nil => cases hi
  | cons t tables ih =>
    rcases List.mem_cons.mp hi with rfl | hi
    · exact contains_of_grows (grows_tableInterfaces ctx _ tables)
        (contains_columnMembers_of_mem hp hn hknows)
    · exact ih hi

end Context

/-! ## The symbols of a file -/

section

variable {profile : Profile} {options : Options} {db : Database}

/-- What holds of the names in the columns' types and of the namespaces of mapped types, and passes
on from helper types, holds of all names of the library that are registered in a file. -/
theorem grows_moduleSymbols_of {P : String → Prop}
    (hpass : (moduleContext profile options db).library.Passes (moduleSymbols profile options db) P)
    (hspaces : ∀ t ∈ db.tables, ∀ c ∈ t.columns,
      ∀ n ∈ (moduleContext profile options db).namespaces t c, P n)
    (hmembers : ∀ i ∈ moduleInterfaces profile options db, ∀ p ∈ i.members,
      ∀ n ∈ p.value.references, P n) :
    Grows ((moduleContext profile options db).RegistersIn db.tables P) (.empty .pascal)
      (moduleSymbols profile options db) := by
  have hmem (t : Table) : t ∈ db.tables.mergeSort Table.precedes → t ∈ db.tables :=
    List.mem_mergeSort.mp
  refine (Context.grows_tableInterfaces_of hpass (fun _ _ h => h) ?_ hmembers).mono fun r hr => ?_
  · exact fun t ht => hspaces t (hmem t ht)
  · cases hr with
    | table ht => exact .table (hmem _ ht)
    | enum ht hc henum => exact .enum (hmem _ ht) hc henum
    | provided hr hP => exact .provided hr hP

/-- Whatever of the library the property of an interface refers to is registered in the file. -/
theorem contains_moduleSymbols_of_mem {i : Interface} (hi : i ∈ moduleInterfaces profile options db)
    {p : Property TypeExpr} (hp : p ∈ i.members) {n : String} (hn : n ∈ p.value.references)
    (hknows : (moduleContext profile options db).library.Knows n) :
    (moduleSymbols profile options db).contains n = true :=
  Context.contains_tableInterfaces_of_mem hi hp hn hknows

/-- A registered definition is one of the library or lists the labels of an enum. -/
theorem definition_of_find? {id : String} {e : Entry Symbol} {d : Definition}
    (hfound : (moduleSymbols profile options db).find? id = some e)
    (hsymbol : e.symbol = .definition d) :
    profile.library.definitions.get? id = some d ∨
      ∃ labels : List String, d = .plain (unionOf (labels.map TypeExpr.text)) := by
  rcases (grows_moduleSymbols profile options db).find?_inv hfound with h | ⟨-, r, hr, rfl, heq⟩
  · simp at h
  · rw [hsymbol] at heq
    cases hr with
    | table => cases heq
    | @enum t c typeId labels =>
      simp only [Context.enumRegistration, Context.enumSymbol] at heq
      split at heq
      · cases heq
      · exact .inr ⟨labels, (Symbol.definition.inj heq).symm⟩
    | provided hprovides =>
      rw [Library.Provides, heq] at hprovides
      have hd := Library.definition_of_symbol? hprovides.2
      exact .inl hd

/-- Each property of an interface is the type of a column of a table. -/
theorem exists_column_of_mem_members {i : Interface} (hi : i ∈ moduleInterfaces profile options db)
    {p : Property TypeExpr} (hp : p ∈ i.members) :
    ∃ t ∈ db.tables, ∃ c ∈ t.columns,
      ∃ symbols, p.value = ((moduleContext profile options db).columnType symbols t c).1 := by
  obtain ⟨t, ht, hof⟩ :=
    exists_of_mem_of_forall₂ (forall₂_moduleInterfaces profile options db).flip hi
  obtain ⟨c, hc, hproperty⟩ := exists_of_mem_of_forall₂ hof.members.flip hp
  exact ⟨t, List.mem_mergeSort.mp ht, c, hc, hproperty.value⟩

/-- The type of each column is a property of an interface. -/
theorem exists_mem_members_of_column (profile : Profile) (options : Options) {t : Table}
    (ht : t ∈ db.tables) {c : Column} (hc : c ∈ t.columns) :
    ∃ i ∈ moduleInterfaces profile options db, ∃ p ∈ i.members,
      ∃ symbols, p.value = ((moduleContext profile options db).columnType symbols t c).1 := by
  obtain ⟨i, hi, hof⟩ := exists_interfaceOf profile options ht
  obtain ⟨p, hp, hproperty⟩ := exists_of_mem_of_forall₂ hof.members hc
  exact ⟨i, hi, p, hp, hproperty.value⟩

end

end TableTypes
