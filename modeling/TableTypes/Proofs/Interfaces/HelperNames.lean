import TableTypes.Proofs.Interfaces.BoundNames
import TableTypes.Proofs.Interfaces.Collected
import TableTypes.Proofs.Symbol.GivenNames

/-!
# Tables and helpers that ask for one name

What a table's interface is called when its columns bring in no helpers is compared with what it is
called in the whole file. Tables and the helpers of their columns are registered by turns, so a
helper of an earlier table can have the name already when the table asks for it. The two runs give
each table the same name exactly where this does not happen.
-/

namespace TableTypes

open SymbolTable

/-! ## Searching among more names -/

namespace SymbolTable

variable {taken more : List String} {style : Naming.IdentifierStyle} {source : String}

/-- A free name is found again among more names if it is free there too. -/
theorem freeName_eq_of_subset {base : String} (hsub : taken ⊆ more)
    (hfree : freeName taken base ∉ more) : freeName more base = freeName taken base := by
  by_cases hbase : base ∈ taken
  · obtain ⟨j, hj, hname, -, hleast⟩ := numbered_spec taken base
    obtain ⟨k, hk, hmore, hkfree, hkleast⟩ := numbered_spec more base
    have htaken : freeName taken base = base ++ toString j := by
      rw [freeName, if_pos (by simpa using hbase), hname]
    rw [htaken] at hfree ⊢
    rw [freeName, if_pos (by simpa using hsub hbase), hmore]
    -- both numbers are the least ones that give a free name
    have hjk : ¬j < k := fun hlt => hfree (hkleast j hj hlt)
    have hkj : ¬k < j := fun hlt => hkfree (hsub (hleast k hk hlt))
    rw [show j = k by omega]
  · have htaken : freeName taken base = base := by rw [freeName, if_neg (by simpa using hbase)]
    rw [htaken] at hfree ⊢
    rw [freeName, if_neg (by simpa using hfree)]

/-- A source that asks for no leading digit gets the first free name. -/
theorem firstFree_displayName (taken : List String)
    (hdigit : startsWithDigit (baseName style source) = false) :
    FirstFree taken (baseName style source) (displayName style taken source) := by
  rw [displayName_of_not_startsWithDigit hdigit]
  exact firstFree_freeName taken _

/-- The first free name is none of those taken. -/
theorem FirstFree.notMem {base name : String} (h : FirstFree taken base name) : name ∉ taken := by
  cases h with
  | plain hfree => exact hfree
  | numbered _ _ hfree _ => exact hfree

/-- A base that is free is itself the first free name. -/
theorem FirstFree.eq_of_notMem {base name : String} (h : FirstFree taken base name)
    (hfree : base ∉ taken) : name = base := by
  cases h with
  | plain => rfl
  | numbered htaken => exact absurd htaken hfree

/-- A base that is taken gets a number from two on. -/
theorem FirstFree.exists_number {base name : String} (h : FirstFree taken base name)
    (htaken : base ∈ taken) : ∃ k : ℕ, 2 ≤ k ∧ name = base ++ toString k := by
  cases h with
  | plain hfree => exact absurd htaken hfree
  | @numbered k _ htwo _ _ => exact ⟨k, htwo, rfl⟩

variable {α : Type} {s t : SymbolTable α} {r : Registration α} {name : String}

/-- Where one table has all names of another and knows its ids by the same names, a registration
gives both the same name exactly if the larger one has the id under this name or does not know the
id and has the name free. A leading digit is guarded without a search. -/
theorem name?_add_eq_iff (hstyle : s.style = t.style) (hsub : s.names ⊆ t.names)
    (hknown : ∀ e, s.find? r.id = some e → t.name? r.id = some e.name)
    (hdigits : ∀ name ∈ t.names, startsWithDigit name = false)
    (hname : (s.add r).name? r.id = some name) :
    (t.add r).name? r.id = some name ↔
      t.name? r.id = some name ∨ t.find? r.id = none ∧
        (startsWithDigit (baseName t.style r.source) = true ∨ name ∉ t.names) := by
  cases hfound : t.find? r.id with
  | some e => simp [add_of_find? hfound]
  | none =>
    have hunnamed : t.name? r.id = none := by simp [name?, hfound]
    have hnew : s.find? r.id = none := by
      cases hold : s.find? r.id with
      | none => rfl
      | some e =>
        rw [hknown e hold] at hunnamed
        cases hunnamed
    have hadded : (t.add r).name? r.id = some (displayName t.style t.names r.source) := by
      simp [name?_add, hfound]
    have hless : displayName t.style s.names r.source = name := by
      simpa [name?_add, hnew, hstyle] using hname
    rw [hadded, hunnamed, Option.some.injEq]
    cases hdigit : startsWithDigit (baseName t.style r.source) with
    | true =>
      rw [displayName_of_startsWithDigit (fun n hn => hdigits n (hsub hn)) hdigit] at hless
      simp [displayName_of_startsWithDigit hdigits hdigit, hless]
    | false =>
      rw [displayName_of_not_startsWithDigit hdigit] at hless ⊢
      subst hless
      constructor
      · intro heq
        exact .inr ⟨rfl, .inr (heq ▸ freeName_not_mem _ _)⟩
      · rintro (hsome | ⟨-, hfalse | hfree⟩)
        · cases hsome
        · cases hfalse
        · exact freeName_eq_of_subset hsub hfree

end SymbolTable

/-! ## Tables without columns -/

/-- A table with all its columns removed. -/
def Table.withoutColumns (t : Table) : Table :=
  { t with columns := [] }

/-- A database with all columns of its tables removed. -/
def Database.withoutColumns (db : Database) : Database :=
  { db with tables := db.tables.map Table.withoutColumns }

/-- Tables are sorted by their names alone. -/
theorem mergeSort_withoutColumns (tables : List Table) :
    (tables.map Table.withoutColumns).mergeSort Table.precedes =
      (tables.mergeSort Table.precedes).map Table.withoutColumns :=
  (List.map_mergeSort (f := Table.withoutColumns) fun _ _ _ _ => rfl).symm

namespace Context

variable (ctx : Context)

/-- Tables without columns register their interfaces only. -/
theorem tableInterfaces_withoutColumns (symbols : Symbols) (tables : List Table) :
    (ctx.tableInterfaces symbols (tables.map Table.withoutColumns)).2 =
      (tables.map ctx.tableRegistration).foldl SymbolTable.add symbols := by
  induction tables generalizing symbols with
  | nil => rfl
  | cons t tables ih => exact ih (symbols.add (ctx.tableRegistration t))

/-- The interfaces of further tables go on from the symbols of the first ones. -/
theorem tableInterfaces_append (symbols : Symbols) (before after : List Table) :
    (ctx.tableInterfaces symbols (before ++ after)).2 =
      (ctx.tableInterfaces (ctx.tableInterfaces symbols before).2 after).2 := by
  induction before generalizing symbols with
  | nil => rfl
  | cons t before ih => exact ih _

/-! ## The two runs -/

/-- The symbols after some tables and all that their columns bring in. -/
def symbolsAfter (tables : List Table) : Symbols :=
  (ctx.tableInterfaces (.empty .pascal) tables).2

/-- The symbols after the interfaces of some tables alone. -/
def tableSymbols (tables : List Table) : Symbols :=
  registered .pascal (tables.map ctx.tableRegistration)

/-- The symbol id of a table. -/
def tableId (t : Table) : String :=
  tableSymbolId (ctx.tableIdentifier t)

/-- The name that a table asks for. -/
def wantedName (t : Table) : String :=
  baseName .pascal (ctx.interfaceSource (ctx.tableIdentifier t))

/-- Both runs give each of some tables the same name. -/
def SameNames (tables : List Table) : Prop :=
  ∀ t ∈ tables, (ctx.symbolsAfter tables).name? (ctx.tableId t) =
    (ctx.tableSymbols tables).name? (ctx.tableId t)

/-- A table whose turn it is gets a name: it has it already, or it has none and the name is not in
use. A name that is asked for with a leading digit is given whether it is in use or not. -/
def GetsName (symbols : Symbols) (t : Table) (name : String) : Prop :=
  symbols.name? (ctx.tableId t) = some name ∨ symbols.find? (ctx.tableId t) = none ∧
    (startsWithDigit (ctx.wantedName t) = true ∨ name ∉ symbols.names)

variable {ctx} {before after tables : List Table} {t : Table} {id name : String}

/-- From some tables to more of them, the symbols grow by what the further tables register. -/
theorem grows_symbolsAfter (ctx : Context) (before after : List Table) :
    Grows (ctx.Registers after) (ctx.symbolsAfter before) (ctx.symbolsAfter (before ++ after)) := by
  rw [symbolsAfter, symbolsAfter, tableInterfaces_append]
  exact ctx.grows_tableInterfaces _ after

/-- In the turn of a table the symbols grow by its interface, and then by what its columns register. -/
theorem grows_symbolsAfter_turn (ctx : Context) (before : List Table) (t : Table) :
    Grows (ctx.Registers [t]) ((ctx.symbolsAfter before).add (ctx.tableRegistration t))
      (ctx.symbolsAfter (before ++ [t])) := by
  rw [symbolsAfter, symbolsAfter, tableInterfaces_append]
  exact grows_columnMembers_self ctx t _

/-- The symbols of the first tables keep their names when further ones follow. -/
theorem name?_tableSymbols_append (after : List Table)
    (h : (ctx.tableSymbols before).name? id = some name) :
    (ctx.tableSymbols (before ++ after)).name? id = some name := by
  rw [tableSymbols, List.map_append, registered, List.foldl_append]
  exact name?_foldl_add_of_name? _ h

/-- Without columns only tables are registered. -/
theorem exists_table_of_name? (h : (ctx.tableSymbols tables).name? id = some name) :
    ∃ t ∈ tables, ctx.tableId t = id := by
  have hmem := name?_registered_isSome_iff.mp (Option.isSome_of_eq_some h)
  simpa [tableRegistration, tableId] using hmem

/-- Each table has a name without columns. -/
theorem exists_name?_tableSymbols (ctx : Context) (ht : t ∈ tables) :
    ∃ name, (ctx.tableSymbols tables).name? (ctx.tableId t) = some name := by
  refine Option.isSome_iff_exists.mp (name?_registered_isSome_iff.mpr ?_)
  rw [List.map_map]
  exact List.mem_map_of_mem ht

/-- The symbols of some tables come from a history of registrations. -/
theorem exists_registered_symbolsAfter (ctx : Context) (tables : List Table) :
    ∃ history, ctx.symbolsAfter tables = registered .pascal history :=
  (ctx.grows_tableInterfaces (.empty .pascal) tables).exists_registered

/-- Symbols have display names in Pascal case. -/
theorem style_symbolsAfter (ctx : Context) (tables : List Table) :
    (ctx.symbolsAfter tables).style = .pascal := by
  obtain ⟨history, hhistory⟩ := exists_registered_symbolsAfter ctx tables
  rw [hhistory, style_registered]

/-- After some tables the names that are taken are those of the symbols. -/
theorem inStep_symbolsAfter (ctx : Context) (tables : List Table) :
    (ctx.symbolsAfter tables).InStep :=
  (ctx.grows_tableInterfaces (.empty .pascal) tables).inStep

/-- A table has its name once its interface is registered; its columns change nothing about it. -/
theorem name?_symbolsAfter_turn (ctx : Context) (before : List Table) (t : Table) :
    (ctx.symbolsAfter (before ++ [t])).name? (ctx.tableId t) =
      ((ctx.symbolsAfter before).add (ctx.tableRegistration t)).name? (ctx.tableId t) := by
  have hname := name?_add_self (ctx.symbolsAfter before) (ctx.tableRegistration t)
  exact (name?_of_grows (grows_symbolsAfter_turn ctx before t) hname).trans hname.symm

/-- Each table has a name in the whole file. -/
theorem exists_name?_symbolsAfter (ctx : Context) (ht : t ∈ tables) :
    ∃ name, (ctx.symbolsAfter tables).name? (ctx.tableId t) = some name := by
  obtain ⟨before, after, rfl⟩ := List.append_of_mem ht
  have hturn := name?_symbolsAfter_turn ctx before t
  rw [show (ctx.tableId t) = (ctx.tableRegistration t).id from rfl, name?_add_self] at hturn
  rw [← List.singleton_append, ← List.append_assoc]
  exact ⟨_, name?_of_grows (grows_symbolsAfter ctx _ after) hturn⟩

/-! ## Names that agree -/

/-- Names that agree are found in the whole file under all ids that have one without columns. -/
theorem SameNames.name?_symbolsAfter (hsame : ctx.SameNames tables)
    (h : (ctx.tableSymbols tables).name? id = some name) :
    (ctx.symbolsAfter tables).name? id = some name := by
  obtain ⟨t, ht, rfl⟩ := exists_table_of_name? h
  rw [hsame t ht, h]

/-- As long as names agree, a name that is taken without columns is taken in the whole file. -/
theorem SameNames.names_subset (hsame : ctx.SameNames tables) :
    (ctx.tableSymbols tables).names ⊆ (ctx.symbolsAfter tables).names := by
  intro n hn
  obtain ⟨e, he, rfl⟩ := (inStep_registered _ _ n).mp hn
  have hids : (ctx.tableSymbols tables).DistinctIds :=
    Grows.distinctIds (P := fun _ => True) ⟨_, fun _ _ => trivial, rfl⟩
  have hfound := hids.find?_eq_some_iff.mpr ⟨he, rfl⟩
  have hname : (ctx.tableSymbols tables).name? e.id = some e.name := by simp [name?, hfound]
  exact (inStep_symbolsAfter ctx tables).mem_names_of_name? (hsame.name?_symbolsAfter hname)

/-- Names that agree after all tables have agreed all along. -/
theorem SameNames.of_append (hsame : ctx.SameNames (before ++ after)) : ctx.SameNames before := by
  intro t ht
  obtain ⟨bare, hbare⟩ := exists_name?_tableSymbols ctx ht
  obtain ⟨whole, hwhole⟩ := exists_name?_symbolsAfter ctx ht
  have hlater := hsame t (List.mem_append_left _ ht)
  rwa [name?_tableSymbols_append after hbare,
    name?_of_grows (grows_symbolsAfter _ before after) hwhole, ← hbare, ← hwhole] at hlater

/-- As long as names have agreed, the next table has the name that it has without columns exactly if
it gets this name when its turn comes. -/
theorem SameNames.turn_iff (hsame : ctx.SameNames before)
    (hname : (ctx.tableSymbols (before ++ [t])).name? (ctx.tableId t) = some name) :
    (ctx.symbolsAfter (before ++ [t])).name? (ctx.tableId t) = some name ↔
      ctx.GetsName (ctx.symbolsAfter before) t name := by
  obtain ⟨history, hhistory⟩ := exists_registered_symbolsAfter ctx before
  have hstyle := style_symbolsAfter ctx before
  have hadded : ((ctx.tableSymbols before).add (ctx.tableRegistration t)).name? (ctx.tableId t) =
      some name := by
    rwa [tableSymbols, List.map_append, List.map_singleton, registered_append_singleton] at hname
  rw [name?_symbolsAfter_turn]
  have hiff := name?_add_eq_iff (s := ctx.tableSymbols before) (t := ctx.symbolsAfter before)
    (r := ctx.tableRegistration t) (by rw [hstyle, tableSymbols, style_registered])
    hsame.names_subset (fun e he => hsame.name?_symbolsAfter (by simp [name?, he]))
    (by rw [hhistory]; exact fun _ => startsWithDigit_of_mem_names) hadded
  rw [hstyle] at hiff
  exact hiff

/-- Tables keep the names that they have without columns exactly if each of them gets its name when
its turn comes. -/
theorem sameNames_iff (ctx : Context) (tables : List Table) :
    ctx.SameNames tables ↔ ∀ before t after, tables = before ++ t :: after →
      ∀ name, (ctx.tableSymbols tables).name? (ctx.tableId t) = some name →
        ctx.GetsName (ctx.symbolsAfter before) t name := by
  constructor
  · rintro hsame before t after rfl name hname
    have hsplit : before ++ t :: after = before ++ [t] ++ after := by simp
    rw [hsplit] at hsame hname
    have hturn := hsame.of_append
    have ht : t ∈ before ++ [t] := List.mem_append_right _ (List.mem_singleton.mpr rfl)
    obtain ⟨bare, hbare⟩ := exists_name?_tableSymbols ctx ht
    rw [name?_tableSymbols_append after hbare] at hname
    obtain rfl := Option.some.inj hname
    exact (hturn.of_append.turn_iff hbare).mp (hturn.name?_symbolsAfter hbare)
  · intro hturns
    induction tables using List.reverseRecOn with
    | nil => simp [SameNames]
    | append_singleton tables t ih =>
      have hsame : ctx.SameNames tables := by
        refine ih fun before u after heq name hname => ?_
        refine hturns before u (after ++ [t]) (by simp [heq]) name ?_
        exact name?_tableSymbols_append [t] hname
      intro u hu
      obtain ⟨bare, hbare⟩ := exists_name?_tableSymbols ctx hu
      rw [hbare]
      rcases List.mem_append.mp hu with hu | hu
      · obtain ⟨earlier, hearlier⟩ := exists_name?_tableSymbols ctx hu
        have heq := (name?_tableSymbols_append [t] hearlier).symm.trans hbare
        rw [← heq]
        exact name?_of_grows (grows_symbolsAfter _ tables [t]) (hsame.name?_symbolsAfter hearlier)
      · obtain rfl := List.mem_singleton.mp hu
        exact (hsame.turn_iff hbare).mpr (hturns tables u [] rfl bare hbare)

/-! ## Who keeps a name -/

/-- In the turn of a table, which comes after some tables and before others, a name goes to the first
that asks for it. -/
structure FirstServed (ctx : Context) (before : List Table) (t : Table) (after : List Table)
    (symbols : Symbols) : Prop where
  /-- What the columns of an earlier table have brought in keeps its name. If this is the name that
  the table asks for, the table is the one numbered. -/
  earlier : ∀ helper, (ctx.symbolsAfter before).name? helper = some (ctx.wantedName t) →
    symbols.name? helper = some (ctx.wantedName t) ∧
    ∃ k : ℕ, 2 ≤ k ∧ symbols.name? (ctx.tableId t) = some (ctx.wantedName t ++ toString k)
  /-- The table has the name that it asks for if no earlier symbol has it. -/
  free : ctx.wantedName t ∉ (ctx.symbolsAfter before).names →
    symbols.name? (ctx.tableId t) = some (ctx.wantedName t)
  /-- What comes with the table itself or with a later one has another name than the table. If it
  asks for the same name, it is the one numbered. -/
  later : ∀ helper e, helper ≠ ctx.tableId t → (ctx.symbolsAfter before).find? helper = none →
    symbols.find? helper = some e →
    ∃ r, ctx.Registers (t :: after) r ∧ r.id = helper ∧ r.symbol = e.symbol ∧
      (startsWithDigit (baseName .pascal r.source) = false →
        symbols.name? (ctx.tableId t) ≠ some e.name ∧
        (baseName .pascal r.source = ctx.wantedName t →
          ∃ k : ℕ, 2 ≤ k ∧ e.name = ctx.wantedName t ++ toString k))

/-- From the turn of a table on, what is registered comes with the table or with a later one. -/
theorem grows_from_turn (ctx : Context) (before : List Table) (t : Table) (after : List Table) :
    Grows (ctx.Registers (t :: after))
      ((ctx.symbolsAfter before).add (ctx.tableRegistration t))
      (ctx.symbolsAfter (before ++ t :: after)) := by
  have hturn := (grows_symbolsAfter_turn ctx before t).mono fun _ hr =>
    hr.mono (List.cons_subset_cons t (List.nil_subset after))
  have hafter := (grows_symbolsAfter ctx (before ++ [t]) after).mono fun _ hr =>
    hr.mono (List.subset_cons_self t after)
  rw [List.append_assoc, List.singleton_append] at hafter
  exact hturn.trans hafter

/-- A table that is not registered yet and asks for no leading digit gets the first free name. -/
theorem exists_firstFree_turn (ctx : Context) {before : List Table} {t : Table}
    (after : List Table) (hnew : (ctx.symbolsAfter before).find? (ctx.tableId t) = none)
    (hdigit : startsWithDigit (ctx.wantedName t) = false) :
    ∃ name, FirstFree (ctx.symbolsAfter before).names (ctx.wantedName t) name ∧
      ((ctx.symbolsAfter before).add (ctx.tableRegistration t)).name? (ctx.tableId t) = some name ∧
      (ctx.symbolsAfter (before ++ t :: after)).name? (ctx.tableId t) = some name := by
  refine ⟨displayName .pascal (ctx.symbolsAfter before).names (ctx.tableRegistration t).source,
    firstFree_displayName _ hdigit, ?_⟩
  have hturn : ((ctx.symbolsAfter before).add (ctx.tableRegistration t)).name? (ctx.tableId t) =
      some (displayName .pascal (ctx.symbolsAfter before).names
        (ctx.tableRegistration t).source) := by
    rw [name?_add, if_pos ⟨hnew, rfl⟩, style_symbolsAfter]
  exact ⟨hturn, name?_of_grows (grows_from_turn ctx before t after) hturn⟩

/-- Names go to the first that asks for them, those with a leading digit apart. -/
theorem firstServed_symbolsAfter (ctx : Context) {before : List Table} {t : Table}
    (after : List Table) (hnew : (ctx.symbolsAfter before).find? (ctx.tableId t) = none)
    (hdigit : startsWithDigit (ctx.wantedName t) = false) :
    ctx.FirstServed before t after (ctx.symbolsAfter (before ++ t :: after)) := by
  obtain ⟨name, hfirst, hturn, hlast⟩ := exists_firstFree_turn ctx after hnew hdigit
  refine ⟨fun helper hhelper => ?_, fun hfree => ?_, fun helper e hne hlate hfound => ?_⟩
  · obtain ⟨k, htwo, rfl⟩ :=
      hfirst.exists_number ((inStep_symbolsAfter ctx before).mem_names_of_name? hhelper)
    exact ⟨name?_of_grows (grows_symbolsAfter ctx before (t :: after)) hhelper, k, htwo, hlast⟩
  · rw [hlast, hfirst.eq_of_notMem hfree]
  · have hnone : ((ctx.symbolsAfter before).add (ctx.tableRegistration t)).find? helper = none := by
      rw [find?_add, if_neg, hlate]
      rintro ⟨-, rfl⟩
      exact hne rfl
    obtain ⟨r, taken, hr, hid, hsymbol, hsub, hname⟩ :=
      (grows_from_turn ctx before t after).exists_displayName hnone hfound
    rw [style_add, style_symbolsAfter] at hname
    have htaken : name ∈ taken :=
      hsub (((inStep_symbolsAfter ctx before).add _).mem_names_of_name? hturn)
    refine ⟨r, hr, hid, hsymbol, fun hplain => ?_⟩
    have hother : FirstFree taken (baseName .pascal r.source) e.name :=
      hname ▸ firstFree_displayName taken hplain
    refine ⟨fun heq => ?_, fun hbase => ?_⟩
    · rw [hlast, Option.some.injEq] at heq
      exact hother.notMem (heq ▸ htaken)
    · rw [hbase] at hother
      -- the table has the name, or it was taken before
      refine hother.exists_number ?_
      by_cases hwanted : ctx.wantedName t ∈ (ctx.symbolsAfter before).names
      · exact hsub (names_subset_add _ _ hwanted)
      · exact hfirst.eq_of_notMem hwanted ▸ htaken

end Context

variable (profile : Profile) (options : Options) (db : Database)

/-- In the file for the tables without columns, the symbols are those of the tables alone. -/
theorem moduleSymbols_withoutColumns :
    moduleSymbols profile options db.withoutColumns =
      (moduleContext profile options db).tableSymbols (db.tables.mergeSort Table.precedes) := by
  have htables : db.withoutColumns.tables.mergeSort Table.precedes =
      (db.tables.mergeSort Table.precedes).map Table.withoutColumns :=
    mergeSort_withoutColumns db.tables
  rw [moduleSymbols, htables]
  exact Context.tableInterfaces_withoutColumns _ _ _

/-- **Tables keep their names against helpers exactly where no helper comes first.** The interface
of each table is called as in the file for the same tables without columns if and only if, in the
order of processing, each table finds this name free when its turn comes (or its symbol id already
registered under it; a name with a leading digit is given without a search). In the turn of a table
that asks for a name without a leading digit, the name goes to the first that asks for it: a helper
of an earlier table keeps it, and the table is numbered; a helper that comes with the table itself or
with a later one is numbered. -/
theorem keepsTableNames_iff :
    ((∀ t ∈ db.tables, moduleTableName? profile options db t =
      moduleTableName? profile options db.withoutColumns t.withoutColumns) ↔
    ∀ before t after, db.tables.mergeSort Table.precedes = before ++ t :: after →
      ∀ name, moduleTableName? profile options db.withoutColumns t.withoutColumns = some name →
        (moduleContext profile options db).GetsName
          ((moduleContext profile options db).symbolsAfter before) t name) ∧
    ∀ before t after, db.tables.mergeSort Table.precedes = before ++ t :: after →
      ((moduleContext profile options db).symbolsAfter before).find?
        (moduleTableId profile options db t) = none →
      startsWithDigit ((moduleContext profile options db).wantedName t) = false →
      (moduleContext profile options db).FirstServed before t after
        (moduleSymbols profile options db) := by
  have hwithout : ∀ t, moduleTableName? profile options db.withoutColumns t.withoutColumns =
      ((moduleContext profile options db).tableSymbols (db.tables.mergeSort Table.precedes)).name?
        ((moduleContext profile options db).tableId t) := by
    intro t
    rw [moduleTableName?, moduleSymbols_withoutColumns]
    rfl
  constructor
  · simp only [hwithout]
    rw [← Context.sameNames_iff]
    exact forall_congr' fun t => imp_congr_left List.mem_mergeSort.symm
  · intro before t after hsorted hnew hdigit
    have hfirst := Context.firstServed_symbolsAfter _ after hnew hdigit
    rwa [← hsorted] at hfirst

/-- The first table gets the name that it asks for, and its helper is there before the second table
asks for the name of the helper. -/
theorem keepsTableNames_of_first_table :
    let id : Column := { name := "id", dataType := "integer" }
    let a : Table := { schema := none, name := "a", columns := [{ id with hasDefault := true }] }
    let generated : Table := { schema := none, name := "generated", columns := [id] }
    let db : Database := { tables := [a, generated], enums := [] }
    moduleTableName? .sqlite {} db a = some "A" ∧
    (moduleSymbols .sqlite {} db).name? "Generated" = some "Generated" ∧
    ∃ k : ℕ, 2 ≤ k ∧
      moduleTableName? .sqlite {} db generated = some ("Generated" ++ toString k) := by
  intro id a generated db
  have hsorted : db.tables.mergeSort Table.precedes = [a, generated] := by cbv
  have hnone : ((moduleContext .sqlite {} db).symbolsAfter []).names = [] := rfl
  have hfirst := (keepsTableNames_iff .sqlite {} db).2 [] a [generated] hsorted (by cbv) (by cbv)
  have hlast := (keepsTableNames_iff .sqlite {} db).2 [a] generated [] hsorted (by cbv) (by cbv)
  have hwanted : (moduleContext .sqlite {} db).wantedName a = "A" := by cbv
  have hasked : (moduleContext .sqlite {} db).wantedName generated = "Generated" := by cbv
  have hhelper : ((moduleContext .sqlite {} db).symbolsAfter [a]).name? "Generated" =
      some "Generated" := by cbv
  refine ⟨?_, ?_⟩
  · have hfree := hfirst.free (by simp [hnone])
    rwa [hwanted] at hfree
  · have hearlier := hlast.earlier "Generated" (by rw [hasked, hhelper])
    rwa [hasked] at hearlier

/-- A table that is called like the helper of a table before it gives way to the helper. -/
theorem not_keepsTableNames_of_generated_table :
    let id : Column := { name := "id", dataType := "integer" }
    let a : Table := { schema := none, name := "a", columns := [{ id with hasDefault := true }] }
    let generated : Table := { schema := none, name := "generated", columns := [id] }
    let db : Database := { tables := [a, generated], enums := [] }
    (db.tables.map (moduleContext .sqlite {} db).tableIdentifier).Nodup ∧
    moduleTableName? .sqlite {} db generated = some "Generated2" ∧
    moduleTableName? .sqlite {} db.withoutColumns generated.withoutColumns = some "Generated" ∧
    ¬∀ t ∈ db.tables, moduleTableName? .sqlite {} db t =
      moduleTableName? .sqlite {} db.withoutColumns t.withoutColumns := by
  intro id a generated db
  have hwhole : moduleTableName? .sqlite {} db generated = some "Generated2" := by cbv
  have hbare : moduleTableName? .sqlite {} db.withoutColumns generated.withoutColumns =
      some "Generated" := by cbv
  refine ⟨by decide, hwhole, hbare, fun hsame => ?_⟩
  have heq := hsame generated (by simp [db])
  rw [hwhole, hbare] at heq
  exact absurd heq (by decide)

end TableTypes
