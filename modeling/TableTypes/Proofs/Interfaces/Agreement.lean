import Mathlib.Data.List.Forall2
import TableTypes.Proofs.Interfaces.Declarations

/-!
# What a file reads of its tables

A file sees a column only through its property name, its comment and the type that it has from
whatever is registered, and a table through its identifier and its columns. Two runs whose tables
agree in this, table by table, make one file. From this, an override hides all that its column's
type would have been made from.
-/

namespace TableTypes

open TypeScript

/-! ## Two runs side by side -/

namespace Context

variable {ctx ctx' : Context}

/-- Columns of two tables, each in a context of its own, look the same to a file. -/
structure SameColumn (ctx ctx' : Context) (t t' : Table) (c c' : Column) : Prop where
  key : ctx.casedName c.name = ctx'.casedName c'.name
  comment : c.comment = c'.comment
  type (symbols : Symbols) : ctx.columnType symbols t c = ctx'.columnType symbols t' c'

/-- Tables, each in a context of its own, look the same to a file. -/
structure SameTable (ctx ctx' : Context) (t t' : Table) : Prop where
  identifier : ctx.tableIdentifier t = ctx'.tableIdentifier t'
  source : ctx.interfaceSource (ctx.tableIdentifier t) =
    ctx'.interfaceSource (ctx'.tableIdentifier t')
  columns : List.Forall₂ (SameColumn ctx ctx' t t') t.columns t'.columns

/-- Columns that are the same for two contexts have the same members. -/
theorem columnMembers_congr {t t' : Table} {columns columns' : List Column}
    (h : List.Forall₂ (SameColumn ctx ctx' t t') columns columns') (symbols : Symbols) :
    ctx.columnMembers t symbols columns = ctx'.columnMembers t' symbols columns' := by
  induction h generalizing symbols with
  | nil => rfl
  | cons hc _ ih => simp only [columnMembers, hc.key, hc.comment, hc.type, ih]

/-- A table that is the same for two contexts has the same interface. -/
theorem tableInterface_congr {t t' : Table} (h : SameTable ctx ctx' t t') (symbols : Symbols) :
    ctx.tableInterface symbols t = ctx'.tableInterface symbols t' := by
  simp only [tableInterface, h.source, columnMembers_congr h.columns]
  rw [h.identifier]

/-- Tables that are the same for two contexts have the same interfaces. -/
theorem tableInterfaces_congr {tables tables' : List Table}
    (h : List.Forall₂ (SameTable ctx ctx') tables tables') (symbols : Symbols) :
    ctx.tableInterfaces symbols tables = ctx'.tableInterfaces symbols tables' := by
  induction h generalizing symbols with
  | nil => rfl
  | cons ht _ ih => simp only [tableInterfaces, tableInterface_congr ht, ih]

/-- The list of all tables depends on their identifiers only. -/
theorem databaseMembers_congr {tables tables' : List Table}
    (h : List.Forall₂ (SameTable ctx ctx') tables tables') (symbols : Symbols) :
    ctx.databaseMembers symbols tables = ctx'.databaseMembers symbols tables' := by
  unfold databaseMembers
  dsimp only
  generalize ([] : Dictionary String) = listed
  induction h generalizing listed with
  | nil => rfl
  | cons ht _ ih => simp only [List.foldl_cons, ht.identifier, ih]

end Context

/-- Two lists are sorted side by side if the order does not tell related members apart. -/
theorem forall₂_mergeSort {α : Type} {R : α → α → Prop} {le : α → α → Bool}
    (hle : ∀ a a' b b', R a a' → R b b' → le a b = le a' b') {as as' : List α}
    (h : List.Forall₂ R as as') : List.Forall₂ R (as.mergeSort le) (as'.mergeSort le) := by
  -- Both lists are sorted as the list of pairs is, by the first member or the second one.
  let pairs := as.zip as'
  have hpairs : ∀ p ∈ pairs, R p.1 p.2 := fun p hp => (List.forall₂_iff_zip.mp h).2 hp
  have hfirst : pairs.map Prod.fst = as := List.map_fst_zip (Nat.le_of_eq h.length_eq)
  have hsecond : pairs.map Prod.snd = as' := List.map_snd_zip (Nat.le_of_eq h.length_eq.symm)
  let sorted := pairs.mergeSort fun p q => le p.1 q.1
  have hfirst' : sorted.map Prod.fst = as.mergeSort le := by
    rw [List.map_mergeSort (s := le) fun _ _ _ _ => rfl, hfirst]
  have hsecond' : sorted.map Prod.snd = as'.mergeSort le := by
    rw [List.map_mergeSort fun p hp q hq => hle _ _ _ _ (hpairs p hp) (hpairs q hq), hsecond]
  rw [← hfirst', ← hsecond', List.forall₂_map_left_iff, List.forall₂_map_right_iff,
    List.forall₂_same]
  exact fun p hp => hpairs p (List.mem_mergeSort.mp hp)

/-- Databases whose sorted tables look the same have one file. -/
theorem moduleStatements_congr {profile profile' : Profile} {options options' : Options}
    {db db' : Database}
    (h : List.Forall₂
      ((moduleContext profile options db).SameTable (moduleContext profile' options' db'))
      (db.tables.mergeSort Table.precedes) (db'.tables.mergeSort Table.precedes)) :
    moduleStatements profile options db = moduleStatements profile' options' db' := by
  have hinterfaces := Context.tableInterfaces_congr h (.empty .pascal)
  have hsymbols : moduleSymbols profile options db = moduleSymbols profile' options' db' :=
    congrArg Prod.snd hinterfaces
  have hmembers : moduleInterfaces profile options db = moduleInterfaces profile' options' db' :=
    congrArg Prod.fst hinterfaces
  have htables : moduleTables profile options db = moduleTables profile' options' db' := by
    rw [moduleTables, moduleTables, hsymbols]
    exact Context.databaseMembers_congr h _
  rw [moduleStatements_eq, moduleStatements_eq, hsymbols, hmembers, htables]

/-! ## Overrides -/

namespace Context

/-- Columns of one table have the same name and comment, and without an override they are the
same. -/
structure SameBesideOverride (ctx : Context) (t : Table) (c c' : Column) : Prop where
  name : c.name = c'.name
  comment : c.comment = c'.comment
  column : ctx.findOverride? t c = none → c = c'

/-- Tables have the same schema, name and columns, but for what overrides hide. -/
structure SameBesideOverrides (ctx : Context) (t t' : Table) : Prop where
  schema : t.schema = t'.schema
  name : t.name = t'.name
  columns : List.Forall₂ (ctx.SameBesideOverride t) t.columns t'.columns

variable {ctx : Context} {t t' : Table} {c c' : Column}

/-- An override is found by the names of the table and the column. -/
theorem findOverride?_congr (hschema : t.schema = t'.schema) (hname : t.name = t'.name)
    (hcolumn : c.name = c'.name) : ctx.findOverride? t c = ctx.findOverride? t' c' := by
  unfold findOverride? plainIdentifier
  rw [hschema, hname, hcolumn]

/-- Nothing but the override makes the type of an overridden column. -/
theorem columnType_congr (hschema : t.schema = t'.schema) (hname : t.name = t'.name)
    (h : ctx.SameBesideOverride t c c') (symbols : Symbols) :
    ctx.columnType symbols t c = ctx.columnType symbols t' c' := by
  have hsame := ctx.findOverride?_congr hschema hname h.name
  unfold columnType
  rw [← hsame]
  cases hoverride : ctx.findOverride? t c with
  | some o => rfl
  | none => rw [h.column hoverride]

/-- A table that differs only where overrides hide it is the same. -/
theorem SameBesideOverrides.sameTable (h : ctx.SameBesideOverrides t t') :
    ctx.SameTable ctx t t' := by
  have hidentifier : ctx.tableIdentifier t = ctx.tableIdentifier t' := by
    unfold tableIdentifier plainIdentifier
    rw [h.schema, h.name]
  refine ⟨hidentifier, congrArg _ hidentifier, h.columns.imp fun c c' hc => ?_⟩
  exact ⟨congrArg _ hc.name, hc.comment, columnType_congr h.schema h.name hc⟩

end Context

/-- **An override hides the inferred type.** Databases with the same enums, and with the same tables
but for what overrides hide, have one file: the data type of an overridden column, its labels,
whether it is an array or nullable and whether it has a value by default leave no trace in it. -/
theorem moduleStatements_eq_of_sameBesideOverrides {profile : Profile} {options : Options}
    {db db' : Database} (henums : db.enums = db'.enums)
    (htables : List.Forall₂ (moduleContext profile options db).SameBesideOverrides
      db.tables db'.tables) :
    moduleStatements profile options db = moduleStatements profile options db' := by
  have hcontext : moduleContext profile options db' = moduleContext profile options db := by
    rw [moduleContext, moduleContext, henums]
  refine moduleStatements_congr ?_
  rw [hcontext]
  refine (forall₂_mergeSort ?_ htables).imp fun t t' ht => ht.sameTable
  intro t t' u u' ht hu
  unfold Table.precedes
  rw [ht.schema, ht.name, hu.schema, hu.name]

/-- A column of an enum and one of arrays of JSON texts leave the same file if the user types them by
`Settings`. -/
theorem moduleStatements_eq_of_settings_override :
    let options : Options :=
      { overrides := [("users.settings", .text "Settings")]
        customImports := [("Settings", "./settings")] }
    let id : Column := .ofType "id" "integer"
    let mood : Column := { name := "settings", dataType := "mood" }
    let json : Column :=
      { name := "settings", dataType := "jsonb", isArray := true, isNullable := true
        hasDefault := true }
    let db (settings : Column) : Database :=
      { tables := [{ schema := some "public", name := "users", columns := [id, settings] }]
        enums := [("public.mood", ["sad", "ok"])] }
    db mood ≠ db json ∧
      moduleStatements .postgres options (db mood) =
        moduleStatements .postgres options (db json) := by
  intro options id mood json db
  refine ⟨by decide, moduleStatements_eq_of_sameBesideOverrides rfl ?_⟩
  refine .cons ⟨rfl, rfl, .cons ⟨rfl, rfl, fun _ => rfl⟩ (.cons ⟨rfl, rfl, ?_⟩ .nil)⟩ .nil
  intro hnone
  have hsome : ((moduleContext .postgres options (db mood)).findOverride?
      { schema := some "public", name := "users", columns := [id, mood] } mood).isSome = true := by
    decide +kernel
  rw [hnone] at hsome
  cases hsome

end TableTypes
