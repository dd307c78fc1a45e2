import TableTypes.Interfaces.Module
import TableTypes.Proofs.Symbol.Growth

/-!
# What a file registers

The interfaces of all tables are made one after the other, and on the way symbols are registered: a
table's interface, the enum that declares a column's type, and what types reach in the library. All
that holds of the symbols of a file follows from these three kinds of steps.
-/

namespace TableTypes

open TypeScript SymbolTable
open TypeScript.TypeExpr (named)

/-! ## Symbol ids -/

/-- Tables with different identifiers have different symbol ids. -/
theorem tableSymbolId_injective {i j : String} (h : tableSymbolId i = tableSymbolId j) : i = j :=
  (String.append_right_inj _).mp h

/-- Enums with different identifiers have different symbol ids. -/
theorem enumSymbolId_injective {i j : String} (h : enumSymbolId i = enumSymbolId j) : i = j :=
  (String.append_right_inj _).mp h

/-- No table has the symbol id of an enum. -/
theorem tableSymbolId_ne_enumSymbolId (identifier typeId : String) :
    tableSymbolId identifier ≠ enumSymbolId typeId := by
  intro h
  have hchars := congrArg String.toList h
  simp [tableSymbolId, enumSymbolId] at hchars

/-- A name without a colon is no symbol id of a table. -/
theorem tableSymbolId_ne_of_colon_notMem {name : String} (hname : ':' ∉ name.toList)
    (identifier : String) : tableSymbolId identifier ≠ name := by
  rintro rfl
  exact hname (by simp [tableSymbolId])

/-- A name without a colon is no symbol id of an enum. -/
theorem enumSymbolId_ne_of_colon_notMem {name : String} (hname : ':' ∉ name.toList)
    (typeId : String) : enumSymbolId typeId ≠ name := by
  rintro rfl
  exact hname (by simp [enumSymbolId])

namespace Context

variable {ctx : Context}

/-! ## The steps -/

/-- The registration of the interface of a table. -/
def tableRegistration (ctx : Context) (t : Table) : Registration Symbol where
  id := tableSymbolId (ctx.tableIdentifier t)
  source := ctx.interfaceSource (ctx.tableIdentifier t)
  symbol := .table

/-- The registration of an enum. -/
def enumRegistration (ctx : Context) (typeId : String) (labels : List String) :
    Registration Symbol where
  id := enumSymbolId typeId
  source := typeId
  symbol := ctx.enumSymbol typeId labels

/-- The enum that declares the type of a column, as its type id and its labels: the user has given
the column no type and mapped none to its data type, which is no scalar but the name of an enum. -/
def declaringEnum? (ctx : Context) (t : Table) (c : Column) : Option (String × List String) :=
  let dataType := Unicode.lowercase c.dataType
  match ctx.findOverride? t c, ctx.mappedType? c dataType, ctx.profile.scalars.get? dataType with
  | none, none, none =>
    (ctx.findEnum? c dataType).map fun labels => (ctx.typeSymbolId c dataType, labels)
  | _, _, _ => none

/-- A column declares an enum exactly when nothing that comes before enums gives it a type and its
data type is one. -/
theorem declaringEnum?_eq_some_iff {t : Table} {c : Column} {typeId : String}
    {labels : List String} :
    ctx.declaringEnum? t c = some (typeId, labels) ↔
      ctx.findOverride? t c = none ∧ ctx.mappedType? c (Unicode.lowercase c.dataType) = none ∧
      ctx.profile.scalars.get? (Unicode.lowercase c.dataType) = none ∧
      ctx.findEnum? c (Unicode.lowercase c.dataType) = some labels ∧
      ctx.typeSymbolId c (Unicode.lowercase c.dataType) = typeId := by
  unfold declaringEnum?
  dsimp only
  split
  · next hoverride hmapped hscalar =>
    rw [Option.map_eq_some_iff]
    simp [hoverride, hmapped, hscalar, and_comm]
  · next hother =>
    constructor
    · simp
    · rintro ⟨hoverride, hmapped, hscalar, -⟩
      exact absurd hscalar (hother hoverride hmapped)

/-- The type of a column that an enum declares is the enum's id, wrapped as the column demands. The
enum is registered, and then what the type reaches. -/
theorem columnType_of_declaringEnum {t : Table} {c : Column} {typeId : String}
    {labels : List String} (henum : ctx.declaringEnum? t c = some (typeId, labels))
    (symbols : Symbols) :
    ctx.columnType symbols t c = (wrapType c [named (enumSymbolId typeId)],
      ctx.library.collect (symbols.add (ctx.enumRegistration typeId labels))
        (wrapType c [named (enumSymbolId typeId)])) := by
  obtain ⟨hoverride, hmapped, hscalar, hfound, rfl⟩ := declaringEnum?_eq_some_iff.mp henum
  simp [columnType, hoverride, inferredType, baseTypes, hmapped, hscalar, hfound, add,
    enumRegistration]

/-- The namespace of a mapped type is collected like any other name. -/
theorem exists_collectNamespace_eq (ctx : Context) (symbols : Symbols) (mapped : String) :
    ∃ names, ctx.collectNamespace symbols mapped = ctx.library.collectNames symbols names := by
  unfold collectNamespace
  split
  · exact ⟨_, rfl⟩
  · exact ⟨[], by rw [Library.collectNames]⟩

/-- For a column that no enum declares only names of the library are collected. -/
theorem columnType_of_no_declaringEnum {t : Table} {c : Column}
    (hnone : ctx.declaringEnum? t c = none) (symbols : Symbols) :
    ∃ names others, (ctx.columnType symbols t c).2 =
      ctx.library.collectNames (ctx.library.collectNames symbols names) others := by
  have hidle (others : List String) : ctx.library.collectNames symbols others =
      ctx.library.collectNames (ctx.library.collectNames symbols []) others := by
    rw [Library.collectNames]
  unfold columnType
  split
  · exact ⟨[], _, hidle _⟩
  · next hoverride =>
    unfold inferredType baseTypes
    dsimp only
    split
    · next mapped hmapped =>
      obtain ⟨names, hnames⟩ := ctx.exists_collectNamespace_eq symbols mapped
      exact ⟨names, _, by rw [hnames]; rfl⟩
    · next hmapped =>
      split
      · exact ⟨[], _, hidle _⟩
      · next hscalar =>
        split
        · next labels hlabels =>
          have henum := declaringEnum?_eq_some_iff.mpr ⟨hoverride, hmapped, hscalar, hlabels, rfl⟩
          rw [hnone] at henum
          cases henum
        · split
          · exact ⟨[], _, hidle _⟩
          · split <;> exact ⟨[], _, hidle _⟩

/-! ## The whole run -/

/-- What registering an enum and collecting keep is kept by typing a column. -/
theorem columnType_preserves {motive : Symbols → Prop} {t : Table} {c : Column}
    (enum : ∀ symbols typeId labels, ctx.declaringEnum? t c = some (typeId, labels) →
      motive symbols → motive (symbols.add (ctx.enumRegistration typeId labels)))
    (collect : ∀ symbols names, motive symbols → motive (ctx.library.collectNames symbols names))
    {symbols : Symbols} (h : motive symbols) : motive (ctx.columnType symbols t c).2 := by
  cases hdeclaring : ctx.declaringEnum? t c with
  | none =>
    obtain ⟨names, others, hcolumn⟩ := columnType_of_no_declaringEnum hdeclaring symbols
    rw [hcolumn]
    exact collect _ _ (collect _ _ h)
  | some found =>
    rw [columnType_of_declaringEnum hdeclaring]
    exact collect _ _ (enum _ _ _ hdeclaring h)

/-- What registering enums and collecting keep is kept by typing some columns. -/
theorem columnMembers_preserves {motive : Symbols → Prop} {t : Table} {columns : List Column}
    (enum : ∀ symbols, ∀ c ∈ columns, ∀ typeId labels,
      ctx.declaringEnum? t c = some (typeId, labels) →
      motive symbols → motive (symbols.add (ctx.enumRegistration typeId labels)))
    (collect : ∀ symbols names, motive symbols → motive (ctx.library.collectNames symbols names))
    {symbols : Symbols} (h : motive symbols) :
    motive (ctx.columnMembers t symbols columns).2 := by
  induction columns generalizing symbols with
  | nil => exact h
  | cons c columns ih =>
    refine ih (fun s c' hc' => enum s c' (List.mem_cons_of_mem _ hc')) ?_
    exact columnType_preserves (fun s => enum s c (by simp)) collect h

/-- What the three kinds of steps keep holds of the symbols after all tables. -/
theorem tableInterfaces_preserves {motive : Symbols → Prop} {tables : List Table}
    (table : ∀ symbols, ∀ t ∈ tables, motive symbols →
      motive (symbols.add (ctx.tableRegistration t)))
    (enum : ∀ symbols, ∀ t ∈ tables, ∀ c ∈ t.columns, ∀ typeId labels,
      ctx.declaringEnum? t c = some (typeId, labels) →
      motive symbols → motive (symbols.add (ctx.enumRegistration typeId labels)))
    (collect : ∀ symbols names, motive symbols → motive (ctx.library.collectNames symbols names))
    {symbols : Symbols} (h : motive symbols) : motive (ctx.tableInterfaces symbols tables).2 := by
  induction tables generalizing symbols with
  | nil => exact h
  | cons t tables ih =>
    refine ih (fun s t' ht' => table s t' (List.mem_cons_of_mem _ ht'))
      (fun s t' ht' => enum s t' (List.mem_cons_of_mem _ ht')) ?_
    exact columnMembers_preserves (fun s => enum s t (by simp)) collect (table _ t (by simp) h)

/-- The registrations that some tables lead to. -/
inductive Registers (ctx : Context) (tables : List Table) : Registration Symbol → Prop where
  | table {t : Table} : t ∈ tables → Registers ctx tables (ctx.tableRegistration t)
  | enum {t : Table} {c : Column} {typeId : String} {labels : List String} : t ∈ tables →
      c ∈ t.columns → ctx.declaringEnum? t c = some (typeId, labels) →
      Registers ctx tables (ctx.enumRegistration typeId labels)
  | provided {r : Registration Symbol} : ctx.library.Provides r → Registers ctx tables r

/-- The symbols grow by the interfaces of the tables, the enums of their columns and names of the
library. -/
theorem grows_tableInterfaces (ctx : Context) (symbols : Symbols) (tables : List Table) :
    Grows (ctx.Registers tables) symbols (ctx.tableInterfaces symbols tables).2 := by
  refine tableInterfaces_preserves (motive := Grows (ctx.Registers tables) symbols)
    ?_ ?_ ?_ (.refl symbols)
  · intro s t ht hgrows
    exact hgrows.add (.table ht)
  · intro s t ht c hc typeId labels henum hgrows
    exact hgrows.add (.enum ht hc henum)
  · intro s names hgrows
    exact hgrows.trans ((ctx.library.grows_collectNames s names).mono fun _ => .provided)

/-- The columns of a table bring in the enums that declare their types and names of the library. -/
theorem grows_columnMembers_self (ctx : Context) (t : Table) (symbols : Symbols) :
    Grows (ctx.Registers [t]) symbols (ctx.columnMembers t symbols t.columns).2 := by
  refine columnMembers_preserves (motive := Grows (ctx.Registers [t]) symbols) ?_ ?_ (.refl symbols)
  · intro s c hc typeId labels henum hgrows
    exact hgrows.add (.enum (List.mem_singleton.mpr rfl) hc henum)
  · intro s names hgrows
    exact hgrows.trans ((ctx.library.grows_collectNames s names).mono fun _ => .provided)

/-- What some tables register is also registered with more of them. -/
theorem Registers.mono {tables more : List Table} (hsub : tables ⊆ more)
    {r : Registration Symbol} (hr : ctx.Registers tables r) : ctx.Registers more r := by
  cases hr with
  | table ht => exact .table (hsub ht)
  | enum ht hc henum => exact .enum (hsub ht) hc henum
  | provided hprovides => exact .provided hprovides

/-- Only a table is registered as one. -/
theorem Registers.exists_table {tables : List Table} {r : Registration Symbol}
    (hr : ctx.Registers tables r) (hsymbol : r.symbol = .table) :
    ∃ t ∈ tables, r.id = tableSymbolId (ctx.tableIdentifier t) := by
  cases hr with
  | @table t ht => exact ⟨t, ht, rfl⟩
  | enum =>
    simp only [enumRegistration, enumSymbol] at hsymbol
    split at hsymbol <;> cases hsymbol
  | provided hprovides =>
    obtain ⟨-, hknown⟩ := hprovides
    rw [hsymbol, Library.symbol?] at hknown
    split at hknown
    · cases hknown
    · obtain ⟨reference, -, himported⟩ := Option.map_eq_some_iff.mp hknown
      cases himported

end Context

end TableTypes
