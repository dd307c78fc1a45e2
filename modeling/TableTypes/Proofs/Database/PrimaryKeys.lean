import TableTypes.Proofs.Database.AutoIncrement

/-!
# Columns of primary keys

A column of a table may be null unless one of its options says that it may not, or makes it the
primary key, or a primary key of the table lists it. A key lists its columns by their names, in
whatever order they are sorted. A column of which the key takes only a beginning stands there with a
length behind its name, and this text is taken for the name of a column.
-/

namespace TableTypes

namespace Sql

/-- The column that a column of a key names as a whole. -/
def KeyColumn.column? (k : KeyColumn) : Option String :=
  match k.e with
  | .name [n] => some n.text
  | _ => none

/-- The column of which a column of a key names a beginning, by the length behind its name. -/
def KeyColumn.beginning? (k : KeyColumn) : Option String :=
  match k.e with
  | .call [n] [.expr (.literal (.number _ _))] => some n.text
  | _ => none

/-- The columns of the primary key that a constraint makes. -/
def TableConstraint.keyColumns : TableConstraint → List KeyColumn
  | .primaryKey _ _ columns _ => columns
  | _ => []

/-- The columns of the primary keys that the constraints of a table make. -/
def TableDefinition.keyColumns (d : TableDefinition) : List KeyColumn :=
  d.constraints.flatMap TableConstraint.keyColumns

/-- A primary key lists a column as a whole. -/
def TableDefinition.ListsWhole (d : TableDefinition) (column : String) : Prop :=
  ∃ k ∈ d.keyColumns, k.column? = some column

/-- A primary key lists a beginning of a column. -/
def TableDefinition.ListsBeginning (d : TableDefinition) (column : String) : Prop :=
  ∃ k ∈ d.keyColumns, k.beginning? = some column

/-- A primary key has an expression that is not a name but whose text is the name of a column. -/
def TableDefinition.HasKeyText (d : TableDefinition) (column : String) : Prop :=
  ∃ k ∈ d.keyColumns, k.column? = none ∧ k.e.render = column

/-- An option says that a column is not null, or makes it the primary key. -/
def ColumnOption.ForbidsNull : ColumnOption → Prop
  | .notNull => True
  | .primaryKey _ => True
  | _ => False

/-- One of the options of a column says that it is not null, or makes it the primary key. -/
def ColumnDefinition.ForbidsNull (c : ColumnDefinition) : Prop :=
  ∃ o ∈ c.options, o.2.ForbidsNull

end Sql

/-! ## Options -/

namespace Scope

open Sql

variable {scope : Scope}

/-- A list of values makes no difference to whether a column can hold null. -/
@[simp] theorem isNullable_checked (labels : List String) (c : Column) :
    (scope.checked labels c).isNullable = c.isNullable := by
  rw [checked]
  split <;> rfl

/-- Apart from `NULL` itself, an option changes only whether a column is not null. -/
theorem isNullable_applyOption {option : ColumnOption} (hnull : option ≠ .null) (c : Column) :
    (scope.applyOption c option).isNullable = false ↔
      c.isNullable = false ∨ option.ForbidsNull := by
  unfold applyOption
  split
  · simp [ColumnOption.ForbidsNull]
  · exact absurd rfl hnull
  · simp [ColumnOption.ForbidsNull]
  · simp [ColumnOption.ForbidsNull]
  · simp [ColumnOption.ForbidsNull]
  · next hnotNull _ _ hprimaryKey _ =>
    have hother : ¬option.ForbidsNull := by
      cases option with
      | notNull => exact absurd rfl hnotNull
      | primaryKey checking => exact absurd rfl (hprimaryKey checking)
      | _ => exact id
    rw [or_iff_left hother]
    -- any other option is known by its text only
    dsimp only
    split
    · rfl
    · split
      · rfl
      · split
        · split <;> simp
        · rfl

/-- A column is not null exactly when one of its options says so. -/
theorem isNullable_column_iff {d : ColumnDefinition} (hnull : ∀ o ∈ d.options, o.2 ≠ .null) :
    (scope.column d).isNullable = false ↔ d.ForbidsNull := by
  have hsteps (options : List ColumnOption) (hoptions : ∀ o ∈ options, o ≠ .null) (c : Column) :
      (options.foldl scope.applyOption c).isNullable = false ↔
        c.isNullable = false ∨ ∃ o ∈ options, o.ForbidsNull := by
    induction options generalizing c with
    | nil => simp
    | cons option options ih =>
      have hrest := ih fun o ho => hoptions o (List.mem_cons_of_mem _ ho)
      rw [List.foldl_cons, hrest, isNullable_applyOption (hoptions option List.mem_cons_self),
        List.exists_mem_cons_iff, or_assoc]
  have hplain : (scope.plainColumn d).isNullable = true := by
    rw [plainColumn]
    split <;> rfl
  have hoptions : ∀ o ∈ d.options.map (·.2), o ≠ .null := by
    intro o ho
    obtain ⟨named, hnamed, rfl⟩ := List.mem_map.mp ho
    exact hnull named hnamed
  rw [column, hsteps _ hoptions, hplain]
  simp only [Bool.true_eq_false, false_or, List.mem_map, exists_exists_and_eq_and]
  rfl

end Scope

/-! ## Constraints -/

/-- The names of the columns of a table, and whether they may be null. -/
def Table.nullability (t : Table) : List (String × Bool) :=
  t.columns.map fun c => (c.name, c.isNullable)

/-- Columns under some names that may not be null any more. -/
def forbidNull (names : List String) (columns : List (String × Bool)) : List (String × Bool) :=
  columns.map fun c => (c.1, c.2 && !names.contains c.1)

/-- The names of the columns stay when null is forbidden. -/
theorem map_fst_forbidNull (names : List String) (columns : List (String × Bool)) :
    (forbidNull names columns).map (·.1) = columns.map (·.1) := by
  rw [forbidNull, List.map_map]
  rfl

/-- Without a name null is forbidden nowhere. -/
theorem forbidNull_nil (columns : List (String × Bool)) : forbidNull [] columns = columns := by
  simp [forbidNull]

/-- Null is forbidden for names one after another. -/
theorem forbidNull_append (names others : List String) (columns : List (String × Bool)) :
    forbidNull (names ++ others) columns = forbidNull others (forbidNull names columns) := by
  simp [forbidNull, Bool.and_assoc]

namespace Scope

open Sql

variable {scope : Scope}

/-- Where no two columns have one name, forbidding null to the first of a name is doing so to all of
them. -/
theorem nullability_updateColumn {t : Table} (hnames : (t.nullability.map (·.1)).Nodup)
    (name : String) :
    (t.updateColumn name fun c => { c with isNullable := false }).nullability =
      forbidNull [name] t.nullability := by
  have hcolumns : (t.columns.map (·.name)).Nodup := by
    simpa [Table.nullability, Function.comp_def] using hnames
  rw [Table.updateColumn_eq, Table.nullability, changeColumn_eq_map hcolumns, forbidNull,
    Table.nullability, List.map_map, List.map_map]
  refine List.map_congr_left fun c _ => ?_
  by_cases hname : c.name = name <;> simp [hname]

/-- A primary key forbids null in the columns that it lists, and no other constraint does. -/
theorem nullability_applyConstraint {t : Table} (hnames : (t.nullability.map (·.1)).Nodup)
    (constraint : TableConstraint) :
    (scope.applyConstraint t constraint).nullability =
      forbidNull (constraint.keyColumns.map keyColumnName) t.nullability := by
  unfold applyConstraint
  split
  · next name kind columns rest =>
    rw [TableConstraint.keyColumns]
    generalize columns.map keyColumnName = keys
    induction keys generalizing t with
    | nil => rw [forbidNull_nil]; rfl
    | cons key keys ih =>
      have hkey := nullability_updateColumn hnames key
      rw [List.foldl_cons, ih (by rwa [hkey, map_fst_forbidNull]), hkey, ← forbidNull_append,
        List.singleton_append]
  · next hother =>
    have hnone : constraint.keyColumns = [] := by
      cases constraint with
      | primaryKey name kind columns rest => exact absurd rfl (hother name kind columns rest)
      | _ => rfl
    rw [hnone, List.map_nil, forbidNull_nil]
    split
    · next name labels _ =>
      rw [Table.updateColumn_eq]
      refine map_changeColumn (fun c => ?_) name t.columns
      rw [isNullable_checked, checked]
      split <;> rfl
    · rfl

/-- The primary keys of a table forbid null in the columns that they list. -/
theorem nullability_table {d : TableDefinition} (hnames : (d.columns.map (·.name.text)).Nodup) :
    (scope.table d).nullability = forbidNull (d.keyColumns.map keyColumnName)
      (d.columns.map fun c => (c.name.text, (scope.column c).isNullable)) := by
  have hsteps (constraints : List TableConstraint) (t : Table)
      (hnames : (t.nullability.map (·.1)).Nodup) :
      (constraints.foldl scope.applyConstraint t).nullability =
        forbidNull ((constraints.flatMap TableConstraint.keyColumns).map keyColumnName)
          t.nullability := by
    induction constraints generalizing t with
    | nil => exact (forbidNull_nil _).symm
    | cons constraint constraints ih =>
      have hstep : (scope.applyConstraint t constraint).nullability = _ :=
        nullability_applyConstraint hnames constraint
      rw [List.foldl_cons, ih _ (by rwa [hstep, map_fst_forbidNull]), hstep, ← forbidNull_append,
        List.flatMap_cons, List.map_append]
  have hcolumns : (d.columns.map scope.column).map (fun c => (c.name, c.isNullable)) =
      d.columns.map fun c => (c.name.text, (scope.column c).isNullable) := by
    simp [name_column]
  rw [table, hsteps, Table.nullability, hcolumns]
  · rfl
  · simpa [Table.nullability, name_column, Function.comp_def] using hnames

/-- A column of a key is known by its name, or by its text if it is no name. -/
theorem keyColumnName_eq_getD (k : KeyColumn) :
    keyColumnName k = k.column?.getD k.e.render := by
  obtain ⟨e, operatorClass, order⟩ := k
  cases e with
  | name path => rcases path with _ | ⟨n, _ | ⟨m, rest⟩⟩ <;> rfl
  | _ => rfl

/-- The name of an element of a key is that of its column, or its text if it is no column. -/
theorem keyColumnName_eq_iff {k : KeyColumn} {column : String} :
    keyColumnName k = column ↔
      k.column? = some column ∨ k.column? = none ∧ k.e.render = column := by
  rw [keyColumnName_eq_getD]
  cases k.column? <;> simp

/-- A column of a primary key is found by its name or by a text that is its name. -/
theorem mem_keyColumnNames_iff {d : TableDefinition} {column : String} :
    column ∈ d.keyColumns.map keyColumnName ↔ d.ListsWhole column ∨ d.HasKeyText column := by
  simp only [List.mem_map, keyColumnName_eq_iff, TableDefinition.ListsWhole,
    TableDefinition.HasKeyText, and_or_left, exists_or]

end Scope

namespace Database

/-- A column stands at the place of its definition. It is not null exactly when one of its options
says so, or a primary key lists it as a whole or has a text that is its name. So it is as its
options and the primary keys say exactly when one of the options forbids null, or a primary key
lists it as a whole, or a primary key lists a beginning of it and has such a text, or neither. -/
theorem not_null_iff (dialect : Dialect) (defaultSchema : Option String)
    (statements : List Sql.Statement) (i k : Nat) (d : Sql.TableDefinition)
    (c : Sql.ColumnDefinition) (hd : (statements.filterMap Scope.definition?)[i]? = some d)
    (hc : d.columns[k]? = some c) (hnames : (d.columns.map (·.name.text)).Nodup)
    (hnull : ∀ o ∈ c.options, o.2 ≠ .null) :
    ∃ column, (ofStatements dialect defaultSchema statements).columnAt? i k = some column ∧
      (column.isNullable = false ↔
        c.ForbidsNull ∨ d.ListsWhole c.name.text ∨ d.HasKeyText c.name.text) ∧
      ((column.isNullable = false ↔
          c.ForbidsNull ∨ d.ListsWhole c.name.text ∨ d.ListsBeginning c.name.text) ↔
        c.ForbidsNull ∨ d.ListsWhole c.name.text ∨
          (d.ListsBeginning c.name.text ↔ d.HasKeyText c.name.text)) := by
  let scope := ({ dialect, defaultSchema } : Scope).withDomains statements
  have hcomment (t : Table) (name text : String) :
      (t.updateColumn name fun c => { c with comment := some text }).nullability =
        t.nullability := by
    rw [Table.updateColumn_eq]
    exact map_changeColumn (f := fun c => { c with comment := some text }) (fun _ => rfl) name
      t.columns
  obtain ⟨t, ht, hnullability⟩ := exists_table_of_map hcomment dialect defaultSchema hd
  have hflag : t.nullability[k]? = some (c.name.text, (scope.column c).isNullable &&
      !(d.keyColumns.map Scope.keyColumnName).contains c.name.text) := by
    rw [hnullability, Scope.nullability_table hnames, forbidNull, List.getElem?_map,
      List.getElem?_map, hc]
    rfl
  rw [Table.nullability, List.getElem?_map, Option.map_eq_some_iff] at hflag
  obtain ⟨column, hcolumn, hflag⟩ := hflag
  have hiff : column.isNullable = false ↔
      c.ForbidsNull ∨ d.ListsWhole c.name.text ∨ d.HasKeyText c.name.text := by
    rw [(Prod.mk.inj hflag).2, Bool.and_eq_false_iff, Scope.isNullable_column_iff hnull,
      Bool.not_eq_false', List.contains_iff_mem, Scope.mem_keyColumnNames_iff]
  refine ⟨column, by rw [columnAt?, TableTypes.columnAt?, ht, Option.bind_some, hcolumn], hiff, ?_⟩
  rw [hiff]
  tauto

/-- In a key of two columns both are not null, in whatever order they are sorted, and the column
beside them may be null. -/
theorem not_null_of_order_items :
    let column (name : String) : Sql.ColumnDefinition :=
      { name := { text := name }, type := .known "BIGINT" [] "", options := [] }
    let key (name order : String) : Sql.KeyColumn :=
      { e := .name [{ text := name }], operatorClass := none, order }
    let d : Sql.TableDefinition :=
      { Sql.plainTable [{ text := "items" }]
          [column "order", column "product", column "amount"] with
        constraints := [.primaryKey none "" [key "order" "", key "product" " DESC"] ""] }
    let nullable (k : Nat) :=
      ((ofStatements .mysql none [.table d]).columnAt? 0 k).map (·.isNullable)
    nullable 1 = some false ∧ nullable 2 = some true := by
  intro column key d nullable
  have hkeys : d.keyColumns = [key "order" "", key "product" " DESC"] := rfl
  have hwhole : d.ListsWhole "product" := ⟨key "product" " DESC", by simp [hkeys], rfl⟩
  have hamount : ¬(d.ListsWhole "amount" ∨ d.HasKeyText "amount") := by
    simp [Sql.TableDefinition.ListsWhole, Sql.TableDefinition.HasKeyText, hkeys, key,
      Sql.KeyColumn.column?]
  obtain ⟨product, hproduct, hnotNull, -⟩ := not_null_iff .mysql none [.table d] 0 1 d
    (column "product") rfl rfl (by decide) (by simp [column])
  obtain ⟨amount, hplace, hnull, -⟩ := not_null_iff .mysql none [.table d] 0 2 d
    (column "amount") rfl rfl (by decide) (by simp [column])
  have hproductNull : product.isNullable = false := hnotNull.mpr (.inr (.inl hwhole))
  have hamountNull : amount.isNullable ≠ false := by
    rw [Ne, hnull]
    simpa [column, Sql.ColumnDefinition.ForbidsNull] using hamount
  exact ⟨by simp [nullable, hproduct, hproductNull], by simpa [nullable, hplace] using hamountNull⟩

/-- A column of which the primary key takes the first ten characters may be null. -/
theorem not_forbidden_null_of_beginning :
    let a : Sql.Name := { text := "a" }
    let column : Sql.ColumnDefinition := { name := a, type := .known "TEXT" [] "", options := [] }
    let d : Sql.TableDefinition :=
      { Sql.plainTable [{ text := "t" }] [column] with
        constraints := [.primaryKey none ""
          [{ e := .call [a] [.expr (.literal (.number "10" false))], operatorClass := none
             order := "" }] ""] }
    d.render = "CREATE TABLE t (a TEXT, PRIMARY KEY (a(10)))" ∧ d.ListsBeginning "a" ∧
      ((ofStatements .mysql none [.table d]).columnAt? 0 0).map (·.isNullable) = some true := by
  intro a column d
  exact ⟨by cbv, ⟨_, List.mem_singleton_self _, rfl⟩, by decide +kernel⟩

end Database

end TableTypes
