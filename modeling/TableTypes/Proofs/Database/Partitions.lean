import TableTypes.Database.Selection
import TableTypes.Proofs.Database.TableIdentity
import TableTypes.Proofs.Text.Mentions

/-!
# Tables that pass for partitions

No definition of a table that is read makes it a part of another one. Whether it is one is decided
by three words in its text, so a table passes for a partition exactly when one of the pieces between
the commas and parentheses of its text has these words in it, and then it is left out of a
selection.
-/

namespace TableTypes

namespace Sql.TableDefinition

/-- The text of a new table before its columns. -/
def heading (d : TableDefinition) : String :=
  "CREATE " ++ (if d.orReplace then "OR REPLACE " else "") ++
    String.join (d.kind.map (· ++ " ")) ++ "TABLE " ++
    (if d.ifNotExists then "IF NOT EXISTS " else "") ++ renderPath d.name

/-- The texts of the columns and of the constraints of a new table. -/
def elements (d : TableDefinition) : List String :=
  d.columns.map ColumnDefinition.render ++ d.constraints.map TableConstraint.render

/-- The text of a new table behind its columns. -/
def ending (d : TableDefinition) : String :=
  (match d.model with
   | none => ""
   | some (keyword, path) => " " ++ keyword ++ " " ++ renderPath path) ++
  renderPieces d.clauses ++
  match d.query with
  | none => ""
  | some q => " AS " ++ q.render

/-- The columns and constraints in parentheses. A table without any has empty parentheses if it is
not made after another table or from a query. -/
def elementList (d : TableDefinition) : String :=
  if d.elements.isEmpty then if d.model.isNone && d.query.isNone then " ()" else ""
  else " (" ++ commas d.elements ++ ")"

/-- The text of a new table is its heading, the list of its columns and constraints, and what
follows. -/
theorem render_eq (d : TableDefinition) :
    d.render = d.heading ++ d.elementList ++ d.ending := by
  unfold render heading elementList elements ending
  cases d.model <;> cases d.query <;> simp only [String.append_assoc]

/-- The text of a new table, cut at its parentheses and at the commas between its elements. -/
def pieces (d : TableDefinition) : List String :=
  match d.elements with
  | [] =>
    if d.model.isNone && d.query.isNone then [d.heading ++ " ", d.ending]
    else [d.heading ++ d.ending]
  | first :: rest => (d.heading ++ " ") :: first :: rest.map (" " ++ ·) ++ [d.ending]

end Sql.TableDefinition

namespace Sql

/-- A word without commas is mentioned by one of the texts between commas. -/
theorem hasWord_commas_iff {word : String} (hcomma : parts word ',' = true) (before first : String)
    (rest : List String) :
    HasWord word (before ++ commas (first :: rest)) ↔
      HasWord word (before ++ first) ∨ ∃ text ∈ rest, HasWord word (" " ++ text) := by
  induction rest generalizing before first with
  | nil => simp [commas]
  | cons second rest ih =>
    have hcut : before ++ commas (first :: second :: rest) =
        before ++ first ++ "," ++ (" " ++ commas (second :: rest)) := by
      simp only [commas, String.intercalate_cons_cons, String.append_assoc]
      rfl
    rw [hcut, hasWord_around_iff (by decide) hcomma, ih]
    simp

/-- A word without parentheses and commas is mentioned by one of the pieces of the text of a new
table. -/
theorem TableDefinition.hasWord_render_iff {word : String} (hopen : parts word '(' = true)
    (hclose : parts word ')' = true) (hcomma : parts word ',' = true) (d : TableDefinition) :
    HasWord word d.render ↔ ∃ piece ∈ d.pieces, HasWord word piece := by
  rw [render_eq, elementList, pieces]
  cases d.elements with
  | nil =>
    rw [List.isEmpty_nil, if_pos rfl]
    split
    · have hcut : d.heading ++ " ()" ++ d.ending =
          d.heading ++ " " ++ "(" ++ ("" ++ ")" ++ d.ending) := by
        simp only [String.append_assoc, String.empty_append]
        rfl
      have hempty (h : HasWord word "") : HasWord word d.ending := by
        simpa using h.append_right d.ending
      rw [hcut, hasWord_around_iff (by decide) hopen, hasWord_around_iff (by decide) hclose,
        or_iff_right_of_imp hempty]
      simp
    · simp
  | cons first rest =>
    rw [List.isEmpty_cons, if_neg (by decide)]
    have hcut : d.heading ++ (" (" ++ commas (first :: rest) ++ ")") ++ d.ending =
        d.heading ++ " " ++ "(" ++ ("" ++ commas (first :: rest) ++ ")" ++ d.ending) := by
      simp only [String.append_assoc, String.empty_append]
      rfl
    rw [hcut, hasWord_around_iff (by decide) hopen, hasWord_around_iff (by decide) hclose,
      hasWord_commas_iff hcomma]
    simp [or_assoc]

end Sql

namespace Scope

open Sql

/-- A new table is said to be a part of another one exactly when one of the pieces of its text has
the words for it. -/
theorem isPartition_iff (d : TableDefinition) :
    isPartition d = true ↔ ∃ piece ∈ d.pieces, HasWord " PARTITION OF " piece := by
  rw [isPartition, hasWord_iff_contains]
  exact d.hasWord_render_iff (by decide) (by decide) (by decide)

/-! ## Tables -/

/-- A change of a column makes no table a partition. -/
theorem isPartition_updateColumn (t : Table) (name : String) (f : Column → Column) :
    (t.updateColumn name f).isPartition = t.isPartition := by
  rw [Table.updateColumn_eq]

/-- A constraint makes no table a partition. -/
theorem isPartition_applyConstraint (scope : Scope) (t : Table) (constraint : TableConstraint) :
    (scope.applyConstraint t constraint).isPartition = t.isPartition := by
  unfold applyConstraint
  split
  · exact foldl_keeps (fun t name => isPartition_updateColumn t name _) _ t
  · split
    · exact isPartition_updateColumn t _ _
    · rfl

/-- A table passes for a partition as its definition does. -/
theorem isPartition_table (scope : Scope) (d : TableDefinition) :
    (scope.table d).isPartition = isPartition d := by
  rw [table, foldl_keeps (isPartition_applyConstraint scope)]

end Scope

/-- A table of text columns with constant defaults. -/
def Sql.textTable (name : String) (columns : List (String × String)) : TableDefinition :=
  Sql.plainTable [{ text := name }] (columns.map fun (column, default) =>
    { name := { text := column }, type := .known "TEXT" [] ""
      options := [(none, .default (.literal (.string .single default)))] })

namespace Database

/-- Without patterns exactly the tables that are no partitions are selected. -/
theorem mem_select_iff {db : Database} {t : Table} :
    t ∈ (db.select {}).tables ↔ t ∈ db.tables ∧ t.isPartition = false := by
  simp [select, Selection.wants]

/-- The table of a definition is a partition, and left out of a selection without patterns, exactly
when one of the pieces of its text has the words for a partition. -/
theorem exists_table_selected_iff (dialect : Dialect) (defaultSchema : Option String)
    (statements : List Sql.Statement) (i : Nat) (d : Sql.TableDefinition)
    (hd : (statements.filterMap Scope.definition?)[i]? = some d) :
    let db := ofStatements dialect defaultSchema statements
    ∃ t, db.tables[i]? = some t ∧
      (t.isPartition = true ↔ ∃ piece ∈ d.pieces, HasWord " PARTITION OF " piece) ∧
      (t ∈ (db.select {}).tables ↔ ∀ piece ∈ d.pieces, ¬HasWord " PARTITION OF " piece) := by
  intro db
  have hcomment (t : Table) (name text : String) :
      (t.updateColumn name fun c => { c with comment := some text }).isPartition = t.isPartition :=
    Scope.isPartition_updateColumn t name _
  obtain ⟨t, ht, hsame⟩ := exists_table_of_map hcomment dialect defaultSchema hd
  have hiff : t.isPartition = true ↔ ∃ piece ∈ d.pieces, HasWord " PARTITION OF " piece := by
    rw [hsame, Scope.isPartition_table, Scope.isPartition_iff]
  refine ⟨t, ht, hiff, ?_⟩
  rw [mem_select_iff, ← Bool.not_eq_true, hiff]
  simp [db, List.mem_of_getElem? ht]

/-- A column that is called `partition` does not make its table a partition. -/
theorem exists_table_selected_of_partition_column :
    let d := Sql.textTable "parts" [("partition", "Partition of none"), ("of", "partition")]
    let db := ofStatements .sqlite none [.table d]
    ∃ t, db.tables[0]? = some t ∧ t.isPartition = false ∧ t ∈ (db.select {}).tables := by
  intro d db
  obtain ⟨t, ht, hpartition, hselected⟩ := exists_table_selected_iff .sqlite none [.table d] 0 d rfl
  have hnone : ∀ piece ∈ d.pieces, ¬HasWord " PARTITION OF " piece := by decide +kernel
  refine ⟨t, ht, ?_, hselected.mpr hnone⟩
  rw [← Bool.not_eq_true, hpartition]
  rintro ⟨piece, hpiece, hwords⟩
  exact hnone piece hpiece hwords

/-- A table is left out of a selection for the default of one of its columns. -/
theorem not_selected_of_default :
    let db := ofStatements .postgres (some "public")
      [.table (Sql.textTable "t" [("a", " partition of ")]), .table (Sql.textTable "u" [("a", "")])]
    db.tables.map (fun t => (t.name, t.isPartition)) = [("t", true), ("u", false)] ∧
      (db.select {}).tables.map (·.name) = ["u"] := by
  decide +kernel

end Database

end TableTypes
