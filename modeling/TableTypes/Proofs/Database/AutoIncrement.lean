import TableTypes.Proofs.Database.TableIdentity
import TableTypes.Proofs.Sql.CountingText

/-!
# Columns that count on

A column counts on if one of its options is a clause for it. As such clauses are known by words in
their texts, a name, an expression or an action in any other option that is searched makes the
column count on too if it mentions one of the words. All other parts of a definition, and the
constraints and comments of the table, make no difference.
-/

namespace TableTypes

namespace Sql.ColumnDefinition

/-- One of the options of a column is a clause for counting. -/
def HasCounting (c : ColumnDefinition) : Prop :=
  ∃ o ∈ c.options, o.2.IsCounting

/-- A text in one of the options of a column mentions a word for counting. -/
def TextsMentionCounting (c : ColumnDefinition) : Prop :=
  ∃ o ∈ c.options, ∃ t ∈ o.2.texts, MentionsCounting t

instance (c : ColumnDefinition) : Decidable c.TextsMentionCounting :=
  inferInstanceAs (Decidable (∃ o ∈ c.options, ∃ t ∈ o.2.texts, MentionsCounting t))

/-- Two columns have the same clauses for counting, each at its place among the options. -/
def SameCounting (c c' : ColumnDefinition) : Prop :=
  List.Forall₂ (fun o o' => o.2 = o'.2 ∨ ¬o.2.IsCounting ∧ ¬o'.2.IsCounting) c.options c'.options

/-- Columns that differ in other options only have a clause for counting on, or both have none. -/
theorem SameCounting.hasCounting_iff {c c' : ColumnDefinition} (h : c.SameCounting c') :
    c.HasCounting ↔ c'.HasCounting := by
  unfold SameCounting at h
  unfold HasCounting
  generalize c.options = options at h
  generalize c'.options = options' at h
  induction h with
  | nil => simp
  | cons hsame _ ih =>
    rw [List.exists_mem_cons_iff, List.exists_mem_cons_iff, ih]
    refine or_congr_left ?_
    rcases hsame with heq | ⟨hnot, hnot'⟩
    · rw [heq]
    · exact iff_of_false hnot hnot'

end Sql.ColumnDefinition

/-! ## Options -/

namespace Scope

open Sql

variable {scope : Scope}

/-- A text in capitals is searched for the words that the text itself mentions in any letter case.
-/
theorem countsOn_iff (s : String) :
    countsOn (Unicode.uppercase s) = true ↔ MentionsCounting s := by
  simp only [countsOn, List.any_eq_true, hasWord_iff_contains]
  rfl

/-- An option mentions a word for counting on exactly when one of its texts does. -/
theorem mentionsCounting_render_iff {option : ColumnOption} (h : option.IsSearched) :
    MentionsCounting option.render ↔ ∃ t ∈ option.texts, MentionsCounting t := by
  constructor
  · rintro ⟨word, hword, hmentions⟩
    obtain ⟨t, ht, hmentions⟩ := (ColumnOption.hasWord_render_iff hword h).mp hmentions
    exact ⟨t, ht, word, hword, hmentions⟩
  · rintro ⟨t, ht, word, hword, hmentions⟩
    exact ⟨word, hword, (ColumnOption.hasWord_render_iff hword h).mpr ⟨t, ht, hmentions⟩⟩

/-- The text of a clause for counting mentions a word for it. -/
theorem mentionsCounting_of_isCounting {option : ColumnOption} (h : option.IsCounting) :
    MentionsCounting option.render := by
  cases option with
  | keyword word =>
    rcases h with rfl | rfl
    · exact ⟨"AUTO_INCREMENT", by simp [countingWords], by decide +kernel⟩
    · exact ⟨"AUTOINCREMENT", by simp [countingWords], by decide +kernel⟩
  | identity always options =>
    refine ⟨"IDENTITY", by simp [countingWords], ?_⟩
    exact .append_right (.append_left (by decide +kernel) _) _
  | _ => exact h.elim

/-- A list of values makes no difference to whether a column counts on. -/
@[simp] theorem isAutoIncrementing_checked (labels : List String) (c : Column) :
    (scope.checked labels c).isAutoIncrementing = c.isAutoIncrementing := by
  rw [checked]
  split <;> rfl

/-- An option that is neither a default nor a comment makes a column count on by its text. -/
theorem isAutoIncrementing_applyOption {c : Column} {option : ColumnOption}
    (hdefault : ∀ e, option ≠ .default e) (hcomment : ∀ text, option ≠ .comment text) :
    (scope.applyOption c option).isAutoIncrementing =
      (c.isAutoIncrementing || countsOn (Unicode.uppercase option.render)) := by
  have hnone {option : ColumnOption} (h : ¬MentionsCounting option.render) :
      (c.isAutoIncrementing || countsOn (Unicode.uppercase option.render)) =
        c.isAutoIncrementing := by
    rw [Bool.eq_false_iff.mpr ((not_congr (countsOn_iff _)).mpr h), Bool.or_false]
  unfold applyOption
  split
  · exact (hnone (by decide +kernel)).symm
  · exact (hnone (by decide +kernel)).symm
  · next e => exact absurd rfl (hdefault e)
  · rfl
  · next text => exact absurd rfl (hcomment text)
  · dsimp only
    split
    · next hcounts => simp [hcounts]
    · next hcounts =>
      rw [Bool.eq_false_iff.mpr hcounts, Bool.or_false]
      split
      · rfl
      · split
        · split <;> simp
        · rfl

/-- An option makes a column count on exactly when it is a clause for counting or one of its texts
mentions a word for it. -/
theorem isAutoIncrementing_applyOption_iff (c : Column) (option : ColumnOption) :
    (scope.applyOption c option).isAutoIncrementing = true ↔ c.isAutoIncrementing = true ∨
      option.IsCounting ∨ ∃ t ∈ option.texts, MentionsCounting t := by
  by_cases hsearched : option.IsSearched
  · have hclause (h : option.IsCounting) : ∃ t ∈ option.texts, MentionsCounting t :=
      (mentionsCounting_render_iff hsearched).mp (mentionsCounting_of_isCounting h)
    rw [isAutoIncrementing_applyOption, Bool.or_eq_true, countsOn_iff,
      mentionsCounting_render_iff hsearched, or_iff_right_of_imp hclause]
    · rintro e rfl
      exact hsearched
    · rintro text rfl
      exact hsearched
  · cases option with
    | default e => simp [applyOption, ColumnOption.IsCounting, ColumnOption.texts]
    | comment text => simp [applyOption, ColumnOption.IsCounting, ColumnOption.texts]
    | identity always options =>
      have hidentity : (ColumnOption.identity always options).IsCounting := trivial
      rw [isAutoIncrementing_applyOption (fun e => ColumnOption.noConfusion)
        (fun text => ColumnOption.noConfusion), Bool.or_eq_true, countsOn_iff]
      simp [hidentity, mentionsCounting_of_isCounting hidentity]
    | _ => exact absurd trivial hsearched

/-! ## Columns -/

/-- A column counts on exactly when one of its options is a clause for it or one of the texts in its
options mentions a word for it. -/
theorem isAutoIncrementing_column_iff (d : ColumnDefinition) :
    (scope.column d).isAutoIncrementing = true ↔ d.HasCounting ∨ d.TextsMentionCounting := by
  have hsteps (options : List ColumnOption) (c : Column) :
      (options.foldl scope.applyOption c).isAutoIncrementing = true ↔
        c.isAutoIncrementing = true ∨ (∃ o ∈ options, o.IsCounting) ∨
          ∃ o ∈ options, ∃ t ∈ o.texts, MentionsCounting t := by
    induction options generalizing c with
    | nil => simp
    | cons option options ih =>
      rw [List.foldl_cons, ih, isAutoIncrementing_applyOption_iff, List.exists_mem_cons_iff,
        List.exists_mem_cons_iff]
      simp only [or_assoc, or_left_comm]
  have hplain : (scope.plainColumn d).isAutoIncrementing = false := by
    rw [plainColumn]
    split <;> rfl
  rw [column, hsteps, hplain]
  simp only [Bool.false_eq_true, false_or, List.mem_map, exists_exists_and_eq_and]
  rfl

end Scope

/-- Which columns of a table count on. -/
def Table.counting (t : Table) : List Bool :=
  t.columns.map (·.isAutoIncrementing)

/-- A change that leaves the flag of a column alone leaves those of the table alone. -/
theorem Table.counting_updateColumn (f : Column → Column)
    (hf : ∀ c, (f c).isAutoIncrementing = c.isAutoIncrementing) (t : Table) (name : String) :
    (t.updateColumn name f).counting = t.counting := by
  rw [Table.updateColumn_eq]
  exact map_changeColumn hf name t.columns

/-- Constraints make no column count on. -/
theorem Scope.counting_table (scope : Scope) (d : Sql.TableDefinition) :
    (scope.table d).counting = d.columns.map fun c => (scope.column c).isAutoIncrementing := by
  have hconstraint (t : Table) (constraint : Sql.TableConstraint) :
      (scope.applyConstraint t constraint).counting = t.counting := by
    unfold applyConstraint
    split
    · refine foldl_keeps (fun t name => ?_) _ t
      exact t.counting_updateColumn (fun c => { c with isNullable := false }) (fun _ => rfl) name
    · split
      · exact t.counting_updateColumn _ (isAutoIncrementing_checked _) _
      · rfl
  rw [table, foldl_keeps hconstraint, Table.counting, List.map_map]
  rfl

/-- A column with a reference. -/
def Sql.referringColumn (target : String) : ColumnDefinition :=
  { name := { text := "owner" }, type := .known "INT" [] ""
    options := [(none, .references
      { table := [{ text := target }], columns := [{ text := "id" }], matching := none
        onDelete := some "CASCADE", onUpdate := none, checking := {} })] }

/-- A reference is no clause for counting on. -/
theorem Sql.not_hasCounting_referringColumn (target : String) :
    ¬(referringColumn target).HasCounting := by
  simp [referringColumn, ColumnDefinition.HasCounting, ColumnOption.IsCounting]

/-- A schema of one table with a reference. -/
def Sql.referringSchema (target : String) : List Statement :=
  [.table (plainTable [{ text := "pets" }] [referringColumn target])]

/-- The column at a place among tables: that of its table, and its own in the table. -/
def columnAt? (tables : List Table) (i k : Nat) : Option Column :=
  tables[i]?.bind fun t => t.columns[k]?

namespace Database

/-- The column at a place of a database. -/
def columnAt? (db : Database) (i k : Nat) : Option Column :=
  TableTypes.columnAt? db.tables i k

/-- A column stands at the place of its definition and counts on as its options say. -/
theorem exists_column_isAutoIncrementing (dialect : Dialect) (defaultSchema : Option String)
    {statements : List Sql.Statement} {i k : Nat} {d : Sql.TableDefinition}
    {c : Sql.ColumnDefinition} (hd : (statements.filterMap Scope.definition?)[i]? = some d)
    (hc : d.columns[k]? = some c) :
    ∃ column, (ofStatements dialect defaultSchema statements).columnAt? i k = some column ∧
      (column.isAutoIncrementing = true ↔ c.HasCounting ∨ c.TextsMentionCounting) := by
  let scope := ({ dialect, defaultSchema } : Scope).withDomains statements
  have hcomment (t : Table) (name text : String) :
      (t.updateColumn name fun c => { c with comment := some text }).counting = t.counting :=
    t.counting_updateColumn (fun c => { c with comment := some text }) (fun _ => rfl) name
  obtain ⟨t, ht, hcounting⟩ := exists_table_of_map hcomment dialect defaultSchema hd
  have hflag : t.counting[k]? = some (scope.column c).isAutoIncrementing := by
    rw [hcounting, Scope.counting_table, List.getElem?_map, hc]
    rfl
  rw [Table.counting, List.getElem?_map, Option.map_eq_some_iff] at hflag
  obtain ⟨column, hcolumn, hflag⟩ := hflag
  refine ⟨column, by rw [columnAt?, TableTypes.columnAt?, ht, Option.bind_some, hcolumn], ?_⟩
  rw [hflag, Scope.isAutoIncrementing_column_iff]

/-- A column counts on exactly when one of its options is a clause for it or a text in one of its
options mentions a word for it. Where the options other than such clauses are changed, in a schema
that is changed elsewhere as well, it counts on as before exactly when it has such a clause or both
columns, or none of them, have such a text. -/
theorem counts_on_iff (dialect : Dialect) (defaultSchema : Option String)
    (statements : List Sql.Statement) (i k : Nat) (d : Sql.TableDefinition)
    (c : Sql.ColumnDefinition) (hd : (statements.filterMap Scope.definition?)[i]? = some d)
    (hc : d.columns[k]? = some c) :
    ∃ column, (ofStatements dialect defaultSchema statements).columnAt? i k = some column ∧
      (column.isAutoIncrementing = true ↔ c.HasCounting ∨ c.TextsMentionCounting) ∧
      ∀ (changed : List Sql.Statement) (d' : Sql.TableDefinition) (c' : Sql.ColumnDefinition),
        (changed.filterMap Scope.definition?)[i]? = some d' → d'.columns[k]? = some c' →
        c.SameCounting c' →
        ∃ column', (ofStatements dialect defaultSchema changed).columnAt? i k = some column' ∧
          (column'.isAutoIncrementing = column.isAutoIncrementing ↔
            c.HasCounting ∨ (c.TextsMentionCounting ↔ c'.TextsMentionCounting)) := by
  obtain ⟨column, hcolumn, hflag⟩ := exists_column_isAutoIncrementing dialect defaultSchema hd hc
  refine ⟨column, hcolumn, hflag, fun changed d' c' hd' hc' hsame => ?_⟩
  obtain ⟨column', hcolumn', hflag'⟩ :=
    exists_column_isAutoIncrementing dialect defaultSchema hd' hc'
  refine ⟨column', hcolumn', ?_⟩
  rw [Bool.eq_iff_iff, hflag, hflag', ← hsame.hasCounting_iff]
  tauto

/-- A reference to `people` makes no column count on, and neither does one to `users` instead. -/
theorem counts_on_of_people :
    ∃ column, (ofStatements .postgres (some "public")
        (Sql.referringSchema "people")).columnAt? 0 0 = some column ∧
      column.isAutoIncrementing = false ∧
      ∃ column', (ofStatements .postgres (some "public")
          (Sql.referringSchema "users")).columnAt? 0 0 = some column' ∧
        column'.isAutoIncrementing = column.isAutoIncrementing := by
  obtain ⟨column, hcolumn, hflag, hchanged⟩ := counts_on_iff .postgres (some "public")
    (Sql.referringSchema "people") 0 0 _ (Sql.referringColumn "people") rfl rfl
  have hpeople : ¬(Sql.referringColumn "people").TextsMentionCounting := by decide +kernel
  have husers : ¬(Sql.referringColumn "users").TextsMentionCounting := by decide +kernel
  have hsame : (Sql.referringColumn "people").SameCounting (Sql.referringColumn "users") :=
    .cons (.inr ⟨id, id⟩) .nil
  obtain ⟨column', hcolumn', hiff⟩ :=
    hchanged (Sql.referringSchema "users") _ (Sql.referringColumn "users") rfl rfl hsame
  refine ⟨column, hcolumn, ?_, column', hcolumn', hiff.mpr (.inr (iff_of_false hpeople husers))⟩
  rw [← Bool.not_eq_true, hflag]
  exact not_or_intro (Sql.not_hasCounting_referringColumn "people") hpeople

/-- A reference to a table that is called `identity` makes a column count on, though no option is a
clause for it. -/
theorem not_counting_of_identity_table :
    ¬(Sql.referringColumn "identity").HasCounting ∧
      ((ofStatements .postgres (some "public")
          (Sql.referringSchema "identity")).columnAt? 0 0).map (·.isAutoIncrementing) = some true ∧
      ((ofStatements .postgres (some "public")
          (Sql.referringSchema "people")).columnAt? 0 0).map (·.isAutoIncrementing) = some false :=
  ⟨Sql.not_hasCounting_referringColumn "identity", by decide +kernel, by decide +kernel⟩

end Database

end TableTypes
