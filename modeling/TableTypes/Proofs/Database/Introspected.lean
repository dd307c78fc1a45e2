import TableTypes.Proofs.Database.Spelling
import TableTypes.Proofs.Database.StatementOrder
import TableTypes.Proofs.Sql.EnumText

/-!
# What a database keeps of the statements that declare it

Each table stands at the place of its definition, under the name that the definition gives it and
with the types that its columns are declared with, whatever constraints and comments follow. Each
view stands behind the tables. Of several enums under one key the last one counts.
-/

namespace TableTypes

/-! ## Tables -/

/-- The name and the type of a column, which neither its options nor comments change. -/
def Column.declared (c : Column) : String × String × Option String :=
  (c.name, c.dataType, c.dataTypeSchema)

/-- The heading of a table and the names and types of its columns. -/
def Table.declared (t : Table) : (QualifiedName × Bool) × List (String × String × Option String) :=
  (t.heading, t.columns.map Column.declared)

/-- A change that leaves the name and the type of a column alone leaves those of the table alone. -/
theorem Table.declared_updateColumn {f : Column → Column}
    (hf : ∀ c, (f c).declared = c.declared) (t : Table) (name : String) :
    (t.updateColumn name f).declared = t.declared := by
  rw [declared, heading_updateColumn, updateColumn_eq, map_changeColumn hf]
  rfl

/-- A change of the first element that admits it leaves alone what the change leaves alone. -/
theorem map_updateFirst? {α β : Type} {g : α → β} {f : α → Option α}
    (hf : ∀ a b, f a = some b → g b = g a) (as : List α) :
    ((updateFirst? f as).getD as).map g = as.map g := by
  induction as with
  | nil => rfl
  | cons a rest ih =>
    unfold updateFirst?
    cases hfa : f a with
    | some b => simp [hf a b hfa]
    | none =>
      cases hrest : updateFirst? f rest with
      | none => rfl
      | some others => simpa [hrest] using ih

namespace Scope

variable {scope : Scope}

/-- Only one dialect takes values from a check. -/
theorem checked_eq_self (hdialect : scope.dialect ≠ .sqlite) (labels : List String) (c : Column) :
    scope.checked labels c = c :=
  if_neg hdialect

/-- An option leaves the name and the type of its column alone. -/
theorem declared_applyOption (hdialect : scope.dialect ≠ .sqlite) (c : Column)
    (option : Sql.ColumnOption) : (scope.applyOption c option).declared = c.declared := by
  unfold applyOption
  split
  · rfl
  · rfl
  · rfl
  · rfl
  · rfl
  · -- any other option is known by its text only
    dsimp only
    split
    · rfl
    · split
      · rfl
      · split
        · split
          · rw [checked_eq_self hdialect]
          · rfl
        · rfl

/-- A list of values makes no difference to the name of a column. -/
@[simp] theorem name_checked (labels : List String) (c : Column) :
    (scope.checked labels c).name = c.name := by
  rw [checked]
  split <;> rfl

/-- An option leaves the name of its column alone. -/
theorem name_applyOption (c : Column) (option : Sql.ColumnOption) :
    (scope.applyOption c option).name = c.name := by
  unfold applyOption
  split
  · rfl
  · rfl
  · rfl
  · rfl
  · rfl
  · dsimp only
    split
    · rfl
    · split
      · rfl
      · split
        · split <;> simp
        · rfl

/-- A column has the name that its definition gives it. -/
theorem name_column (d : Sql.ColumnDefinition) : (scope.column d).name = d.name.text := by
  refine (foldl_keeps (g := Column.name) name_applyOption _ _).trans ?_
  rw [plainColumn]
  split <;> rfl

/-- A constraint leaves the names and the types of a table alone. -/
theorem declared_applyConstraint (hdialect : scope.dialect ≠ .sqlite) (t : Table)
    (constraint : Sql.TableConstraint) :
    (scope.applyConstraint t constraint).declared = t.declared := by
  unfold applyConstraint
  split
  · refine foldl_keeps (fun t name => ?_) _ t
    refine Table.declared_updateColumn (fun c => ?_) t name
    rfl
  · split
    · exact Table.declared_updateColumn (fun c => by rw [checked_eq_self hdialect]) t _
    · rfl

/-- Outside SQLite the columns of a table have the types that they are declared with. -/
theorem declared_table (hdialect : scope.dialect ≠ .sqlite) (d : Sql.TableDefinition) :
    (scope.table d).declared = ((scope.qualified (plainPath d.name), false),
      d.columns.map fun c => (scope.plainColumn c).declared) := by
  have hcolumn (c : Sql.ColumnDefinition) :
      (scope.column c).declared = (scope.plainColumn c).declared :=
    foldl_keeps (declared_applyOption hdialect) _ _
  refine (foldl_keeps (declared_applyConstraint hdialect) d.constraints _).trans ?_
  simp [Table.declared, Table.heading, Table.key, Function.comp_def, hcolumn]

/-- What changes of comments leave alone in a table is left alone by a comment. -/
theorem map_applyComment {β : Type} {g : Table → β}
    (hg : ∀ t name text, g (t.updateColumn name fun c => { c with comment := some text }) = g t)
    (tables : List Table) (comment : String × String) :
    (scope.applyComment tables comment.1 comment.2).map g = tables.map g := by
  unfold applyComment
  split
  · rfl
  · next table column _ =>
    refine map_updateFirst? (fun t u hu => ?_) tables
    split at hu
    · have hupdate := hg t (String.ofList (Text.unquote column)) comment.2
      rwa [Table.updateColumn, hu] at hupdate
    · cases hu

/-- What changes of comments leave alone in a table is that of its definition. -/
theorem map_commentedTables {β : Type} {g : Table → β}
    (hg : ∀ t name text, g (t.updateColumn name fun c => { c with comment := some text }) = g t)
    (definitions : List Sql.TableDefinition) (comments : List (String × String)) :
    (scope.commentedTables definitions comments).map g = definitions.map fun d => g (scope.table d) := by
  refine (foldl_keeps (map_applyComment hg) comments _).trans ?_
  rw [List.map_map]
  rfl

/-- Comments change neither the names of tables nor the types of their columns. -/
theorem declared_commentedTables (definitions : List Sql.TableDefinition)
    (comments : List (String × String)) :
    (scope.commentedTables definitions comments).map Table.declared =
      definitions.map fun d => (scope.table d).declared := by
  refine map_commentedTables (fun t name text => ?_) definitions comments
  exact Table.declared_updateColumn (f := fun c => { c with comment := some text }) (fun _ => rfl) t name

/-! ## Views -/

/-- Views come behind the tables and views that are there. -/
theorem prefix_foldl_addView (projections : List Sql.Projection) (tables : List Table) :
    tables <+: projections.foldl scope.addView tables := by
  induction projections generalizing tables with
  | nil => exact List.prefix_refl tables
  | cons p rest ih => exact (List.prefix_append tables _).trans (ih (scope.addView tables p))

/-- A view has the name of its declaration. -/
theorem key_of_view? {tables : List Table} {p : Sql.Projection} {v : Table}
    (hv : scope.view? tables p = some v) : v.key = scope.qualified p.name := by
  unfold view? at hv
  simp only [Option.bind_eq_bind, Option.bind_eq_some_iff, Option.pure_def, Option.some.injEq] at hv
  obtain ⟨source, -, columns, -, rfl⟩ := hv
  rfl

/-- A view that is made stays among the tables. -/
theorem mem_foldl_addView {tables : List Table} {before after : List Sql.Projection}
    {p : Sql.Projection} {v : Table}
    (hv : scope.view? (before.foldl scope.addView tables) p = some v) :
    v ∈ (before ++ p :: after).foldl scope.addView tables := by
  rw [List.foldl_append, List.foldl_cons]
  refine (prefix_foldl_addView after _).subset ?_
  rw [addView, hv]
  simp

/-! ## Enums -/

/-- The labels that an enum has by a list of labels as it is written. -/
def enumLabels (labels : List Sql.Name) : List String :=
  distinctLabels (Sql.labelsOf (Sql.commas (labels.map Sql.Name.render)).toList)

/-- An enum is declared under its name as it is written. -/
theorem enum?_type {path : Sql.Path} (labels : List Sql.Name) (hne : Sql.renderPath path ≠ "")
    (hblank : ∀ c ∈ (Sql.renderPath path).toList, Unicode.isBlank c = false) :
    scope.enum? (.type path (.enum labels)) =
      some ((scope.qualified (Sql.renderPath path)).text, enumLabels labels) := by
  rw [enum?, Sql.readEnum?_render labels hne hblank]
  rfl

/-! ## Types of columns -/

/-- A column of any type but a list of labels, which is written in parentheses, has the type that
its text stands for. -/
theorem declared_plainColumn {c : Sql.ColumnDefinition} (h : '(' ∉ c.type.render.toList) :
    (scope.plainColumn c).declared = (c.name.text, (scope.resolve c.type.render).name,
      (scope.resolve c.type.render).schema) := by
  unfold plainColumn
  split
  · next labels htype =>
    rw [htype, Sql.DataType.render] at h
    simp at h
  · rfl

/-- Domains are known in small letters. -/
theorem lowercase_of_domain? {st : Sql.Statement} {domain : String × String}
    (h : scope.domain? st = some domain) : Unicode.lowercase domain.1 = domain.1 := by
  unfold domain? at h
  split at h
  · obtain ⟨⟨name, base⟩, -, rfl⟩ := Option.map_eq_some_iff.mp h
    exact Unicode.lowercase_lowercase _
  · cases h

/-- A key that is none of those of the domains finds none. -/
theorem get?_domains_withDomains {statements : List Sql.Statement} {key : String}
    (h : ∀ st ∈ statements, ∀ domain ∈ scope.domain? st, domain.1 ≠ key) :
    (scope.withDomains statements).domains.get? key = none := by
  refine Dictionary.get?_override_of_notMem (d := []) fun hkey => ?_
  obtain ⟨domain, hdomain, rfl⟩ := List.mem_map.mp hkey
  obtain ⟨st, hst, hdomain⟩ := List.mem_filterMap.mp hdomain
  exact h st hst domain hdomain rfl

/-- A data type that is written as a name which no domain has stands for itself. -/
theorem resolve_of_spells {text name : String} (h : SpellsType text name)
    (hname : CatalogType.canonicalName scope.dialect (Unicode.lowercase name) =
      (Unicode.lowercase name, false))
    (hdomain : scope.domains.get? (scope.qualified (Unicode.lowercase name)).text = none) :
    scope.resolve text = { name := Unicode.lowercase name } := by
  simp only [resolve, CatalogType.read_of_spells h hname, hdomain]

end Scope

namespace Database

variable {dialect : Dialect} {defaultSchema : Option String} {statements : List Sql.Statement}

/-- A table with its comments keeps its place when the views come behind it. -/
theorem getElem?_tables_ofStatements {i : Nat} {t : Table}
    (ht : ((({ dialect, defaultSchema } : Scope).withDomains statements).commentedTables
      (statements.filterMap Scope.definition?) (statements.filterMap Scope.comment?))[i]? = some t) :
    (ofStatements dialect defaultSchema statements).tables[i]? = some t := by
  obtain ⟨views, hviews⟩ := (({ dialect, defaultSchema } : Scope).withDomains
    statements).prefix_foldl_addView (statements.filterMap Scope.projection?)
      (Scope.commentedTables _ (statements.filterMap Scope.definition?)
        (statements.filterMap Scope.comment?))
  rw [tables_ofStatements, ← hviews, List.getElem?_append_left (List.getElem?_eq_some_iff.mp ht).1]
  exact ht

/-- The table of a definition stands at the place of the definition, and what comments leave alone
in a table is as the definition gives it. -/
theorem exists_table_of_map {β : Type} {g : Table → β}
    (hg : ∀ t name text, g (t.updateColumn name fun c => { c with comment := some text }) = g t)
    (dialect : Dialect) (defaultSchema : Option String) {i : Nat} {d : Sql.TableDefinition}
    (hd : (statements.filterMap Scope.definition?)[i]? = some d) :
    ∃ t, (ofStatements dialect defaultSchema statements).tables[i]? = some t ∧
      g t = g ((({ dialect, defaultSchema } : Scope).withDomains statements).table d) := by
  let scope := ({ dialect, defaultSchema } : Scope).withDomains statements
  let tables := scope.commentedTables (statements.filterMap Scope.definition?)
    (statements.filterMap Scope.comment?)
  have hplace : (tables.map g)[i]? = some (g (scope.table d)) := by
    rw [Scope.map_commentedTables hg, List.getElem?_map, hd]
    rfl
  rw [List.getElem?_map, Option.map_eq_some_iff] at hplace
  obtain ⟨t, ht, hsame⟩ := hplace
  exact ⟨t, getElem?_tables_ofStatements ht, hsame⟩

/-- The table of a definition has the name and the types of columns that the definition gives it. -/
theorem exists_table_of_definition (dialect : Dialect) (defaultSchema : Option String) {i : Nat}
    {d : Sql.TableDefinition}
    (hd : (statements.filterMap Scope.definition?)[i]? = some d) :
    ∃ t, (ofStatements dialect defaultSchema statements).tables[i]? = some t ∧ t.declared =
      ((({ dialect, defaultSchema } : Scope).withDomains statements).table d).declared := by
  refine exists_table_of_map (fun t name text => ?_) dialect defaultSchema hd
  exact Table.declared_updateColumn (f := fun c => { c with comment := some text }) (fun _ => rfl) t
    name

/-- Outside SQLite each column of a definition stands at its place in the table, with the type that
it is declared with. -/
theorem exists_column_of_definition {dialect : Dialect} (hdialect : dialect ≠ .sqlite)
    (defaultSchema : Option String) {i k : Nat} {d : Sql.TableDefinition}
    {c : Sql.ColumnDefinition} (hd : (statements.filterMap Scope.definition?)[i]? = some d)
    (hc : d.columns[k]? = some c) :
    ∃ t column, (ofStatements dialect defaultSchema statements).tables[i]? = some t ∧
      t.columns[k]? = some column ∧ column.declared =
        ((({ dialect, defaultSchema } : Scope).withDomains statements).plainColumn c).declared := by
  let scope := ({ dialect, defaultSchema } : Scope).withDomains statements
  obtain ⟨t, ht, hdeclared⟩ := exists_table_of_definition dialect defaultSchema hd
  have hcolumns : t.columns.map Column.declared =
      d.columns.map fun c => (scope.plainColumn c).declared :=
    congrArg Prod.snd (hdeclared.trans (scope.declared_table hdialect d))
  have hcolumn : (t.columns.map Column.declared)[k]? = some (scope.plainColumn c).declared := by
    rw [hcolumns, List.getElem?_map, hc]
    rfl
  rw [List.getElem?_map, Option.map_eq_some_iff] at hcolumn
  obtain ⟨column, hcolumn, hdeclared⟩ := hcolumn
  exact ⟨t, column, ht, hcolumn, hdeclared⟩

/-! ## Enums -/

/-- The labels of the last enum of a key are found under the key in any letter case. -/
theorem labels?_ofStatements {before after : List Sql.Statement} {st : Sql.Statement}
    {name : String} {labels : List String}
    (hst : ({ dialect, defaultSchema } : Scope).enum? st = some (name, labels))
    (hlast : ∀ later ∈ after, ∀ e ∈ ({ dialect, defaultSchema } : Scope).enum? later,
      Unicode.lowercase e.1 ≠ Unicode.lowercase name) {key : String}
    (hkey : Unicode.lowercase key = Unicode.lowercase name) :
    (ofStatements dialect defaultSchema (before ++ st :: after)).enums.labels? key =
      some (Enums.sorted labels) := by
  let names : Scope := { dialect, defaultSchema }
  let entry (e : String × List String) := (Unicode.lowercase e.1, e.2)
  have henums : (ofStatements dialect defaultSchema (before ++ st :: after)).enums =
      Dictionary.override [] ((before.filterMap names.enum?).map entry ++
        (Unicode.lowercase name, labels) :: (after.filterMap names.enum?).map entry) := by
    have hentries : ((before ++ st :: after).filterMap names.enum?).map entry =
        (before.filterMap names.enum?).map entry ++
          (Unicode.lowercase name, labels) :: (after.filterMap names.enum?).map entry := by
      rw [List.filterMap_append, List.filterMap_cons, hst, List.map_append, List.map_cons]
    rw [← hentries, Dictionary.override, List.foldl_map]
    rfl
  have hafter : Unicode.lowercase name ∉
      Dictionary.keys ((after.filterMap names.enum?).map entry) := by
    intro hmem
    simp only [Dictionary.keys, List.map_map, List.mem_map, List.mem_filterMap] at hmem
    obtain ⟨e, ⟨later, hlater, he⟩, heq⟩ := hmem
    exact hlast later hlater e he heq
  rw [Enums.labels?, hkey, henums, Dictionary.get?_override_append_cons hafter]
  rfl

end Database

end TableTypes
