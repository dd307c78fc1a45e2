import TableTypes.Proofs.Database.Introspected

/-!
# What views show

A view has columns of one table or view before it. Whatever chain of views lies between, each of its
columns shows a column of a table that the schema creates: it has the same type, labels and comment,
but it may be null and is never given a value by the database. A view that cannot be made leaves no
trace.
-/

namespace TableTypes

/-! ## Columns -/

/-- A column shows another one: it holds the same values, or null, and is only read. -/
structure Column.Shows (c source : Column) : Prop where
  isNullable : c.isNullable = true
  hasDefault : c.hasDefault = false
  isAutoIncrementing : c.isAutoIncrementing = false
  dataType : c.dataType = source.dataType
  dataTypeSchema : c.dataTypeSchema = source.dataTypeSchema
  enumValues : c.enumValues = source.enumValues
  isArray : c.isArray = source.isArray
  comment : c.comment = source.comment

/-- What shows a column that shows another one shows this one as well. -/
theorem Column.Shows.trans {c d source : Column} (hc : c.Shows d) (hd : d.Shows source) :
    c.Shows source where
  isNullable := hc.isNullable
  hasDefault := hc.hasDefault
  isAutoIncrementing := hc.isAutoIncrementing
  dataType := hc.dataType.trans hd.dataType
  dataTypeSchema := hc.dataTypeSchema.trans hd.dataTypeSchema
  enumValues := hc.enumValues.trans hd.enumValues
  isArray := hc.isArray.trans hd.isArray
  comment := hc.comment.trans hd.comment

namespace Scope

variable {scope : Scope}

/-- A column of a view shows its source, under whatever name. -/
theorem shows_viewColumn (source : Column) (name : String) :
    { viewColumn source with name }.Shows source :=
  ⟨rfl, rfl, rfl, rfl, rfl, rfl, rfl, rfl⟩

/-- What a list gives element by element comes from one of its elements. -/
theorem exists_of_mem_mapM {α β : Type} {f : α → Option β} {as : List α} {bs : List β}
    (h : as.mapM f = some bs) {b : β} (hb : b ∈ bs) : ∃ a ∈ as, f a = some b := by
  induction as generalizing bs with
  | nil =>
    obtain rfl : [] = bs := Option.some.inj h
    cases hb
  | cons a as ih =>
    simp only [List.mapM_cons, Option.pure_def, Option.bind_eq_bind, Option.bind_eq_some_iff] at h
    obtain ⟨b', hb', bs', hbs', h⟩ := h
    obtain rfl := Option.some.inj h
    rcases List.mem_cons.mp hb with rfl | hb
    · exact ⟨a, List.mem_cons_self, hb'⟩
    · obtain ⟨a', ha', hfa'⟩ := ih hbs' hb
      exact ⟨a', List.mem_cons_of_mem _ ha', hfa'⟩

/-- If a list gives something element by element, each of its elements does. -/
theorem isSome_of_mapM {α β : Type} {f : α → Option β} {as : List α} {bs : List β}
    (h : as.mapM f = some bs) {a : α} (ha : a ∈ as) : (f a).isSome = true := by
  induction as generalizing bs with
  | nil => cases ha
  | cons a' as ih =>
    simp only [List.mapM_cons, Option.pure_def, Option.bind_eq_bind, Option.bind_eq_some_iff] at h
    obtain ⟨b, hb, bs', hbs', -⟩ := h
    rcases List.mem_cons.mp ha with rfl | ha
    · exact Option.isSome_of_eq_some hb
    · exact ih hbs' ha

/-- The columns that an item shows are columns of the source. -/
theorem exists_shows_of_itemColumns? {source : Table} {item : List Char} {columns : List Column}
    (hcolumns : itemColumns? source item = some columns) {c : Column} (hc : c ∈ columns) :
    ∃ s ∈ source.columns, c.Shows s := by
  unfold itemColumns? at hcolumns
  split at hcolumns
  · obtain rfl := Option.some.inj hcolumns
    obtain ⟨s, hs, rfl⟩ := List.mem_map.mp hc
    exact ⟨s, hs, shows_viewColumn s s.name⟩
  · simp only [Option.pure_def, Option.bind_eq_bind, Option.bind_eq_some_iff] at hcolumns
    obtain ⟨⟨name, newName⟩, -, s, hs, hcolumns⟩ := hcolumns
    obtain rfl := Option.some.inj hcolumns
    obtain rfl := List.mem_singleton.mp hc
    exact ⟨s, List.mem_of_find?_eq_some hs, shows_viewColumn s _⟩

/-- Each column of a view shows a column of one of the tables that the view can select from. -/
theorem exists_shows_of_view? {tables : List Table} {p : Sql.Projection} {v : Table}
    (hv : scope.view? tables p = some v) {c : Column} (hc : c ∈ v.columns) :
    ∃ t ∈ tables, ∃ s ∈ t.columns, c.Shows s := by
  unfold view? at hv
  simp only [Option.pure_def, Option.bind_eq_bind, Option.bind_eq_some_iff] at hv
  obtain ⟨source, hsource, columns, hcolumns, hv⟩ := hv
  obtain rfl := Option.some.inj hv
  obtain ⟨found, hfound, hc⟩ := List.mem_flatten.mp hc
  obtain ⟨item, -, hitem⟩ := exists_of_mem_mapM hcolumns hfound
  exact ⟨source, List.mem_of_find?_eq_some hsource, exists_shows_of_itemColumns? hitem hc⟩

/-! ## Tables and views -/

/-- Among some tables and views, each one is a given table or a view whose columns show columns of
the given tables. -/
def ViewsShow (base tables : List Table) : Prop :=
  ∀ t ∈ tables, t ∈ base ∨
    t.isView = true ∧ ∀ c ∈ t.columns, ∃ b ∈ base, ∃ s ∈ b.columns, c.Shows s

/-- What shows a column of a table or view shows one of a given table. -/
theorem ViewsShow.exists_base {base tables : List Table} (h : ViewsShow base tables) {t : Table}
    (ht : t ∈ tables) {c s : Column} (hs : s ∈ t.columns) (hc : c.Shows s) :
    ∃ b ∈ base, ∃ s ∈ b.columns, c.Shows s := by
  rcases h t ht with hbase | ⟨-, hcolumns⟩
  · exact ⟨t, hbase, s, hs, hc⟩
  · obtain ⟨b, hb, source, hsource, hshows⟩ := hcolumns s hs
    exact ⟨b, hb, source, hsource, hc.trans hshows⟩

/-- One more view shows columns of a table, or is left out. -/
theorem ViewsShow.addView {base tables : List Table} (h : ViewsShow base tables)
    (p : Sql.Projection) : ViewsShow base (scope.addView tables p) := by
  intro t ht
  rcases List.mem_append.mp ht with ht | ht
  · exact h t ht
  · have hview := Option.mem_toList.mp ht
    refine .inr ⟨isView_of_view? hview, fun c hc => ?_⟩
    obtain ⟨u, hu, s, hs, hshows⟩ := exists_shows_of_view? hview hc
    exact h.exists_base hu hs hshows

/-- Views of tables and of views before them show columns of the tables. -/
theorem viewsShow_foldl_addView (projections : List Sql.Projection) (base : List Table) :
    ViewsShow base (projections.foldl scope.addView base) := by
  suffices hrun : ∀ tables, ViewsShow base tables →
      ViewsShow base (projections.foldl scope.addView tables) from
    hrun base fun t ht => .inl ht
  induction projections with
  | nil => exact fun tables h => h
  | cons p projections ih => exact fun tables h => ih _ (h.addView p)

/-- A table without the comments on its columns. -/
def uncommented (t : Table) : Table :=
  { t with columns := t.columns.map fun c => { c with comment := none } }

/-- A comment on a column makes no difference beside the comments. -/
theorem uncommented_updateColumn (t : Table) (name text : String) :
    uncommented (t.updateColumn name fun c => { c with comment := some text }) = uncommented t := by
  have hcolumns := map_changeColumn (g := fun c => { c with comment := none })
    (f := fun c => { c with comment := some text }) (fun _ => rfl) name t.columns
  rw [Table.updateColumn_eq, uncommented, uncommented]
  simp only [hcolumns]

/-- Comments change nothing but the comments of columns. -/
theorem uncommented_commentedTables (definitions : List Sql.TableDefinition)
    (comments : List (String × String)) :
    (scope.commentedTables definitions comments).map uncommented =
      definitions.map fun d => uncommented (scope.table d) :=
  map_commentedTables uncommented_updateColumn definitions comments

/-- No table of a definition is a view. -/
theorem isView_of_mem_base {definitions : List Sql.TableDefinition}
    {comments : List (String × String)} {t : Table}
    (ht : t ∈ scope.commentedTables definitions comments) : t.isView = false := by
  have hmem := List.mem_map_of_mem (f := Table.declared) ht
  rw [declared_commentedTables] at hmem
  obtain ⟨d, -, hd⟩ := List.mem_map.mp hmem
  have hheading : (scope.table d).heading = t.heading := congrArg Prod.fst hd
  rw [heading_table] at hheading
  exact (congrArg Prod.snd hheading).symm

/-! ## Views at their turn -/

/-- The tables among which a view between two lists of statements looks for its source: all tables
and the views before it. -/
def tablesBetween (scope : Scope) (before after : List Sql.Statement) : List Table :=
  (before.filterMap projection?).foldl scope.addView
    (scope.commentedTables ((before ++ after).filterMap definition?)
      ((before ++ after).filterMap comment?))

/-- The view of a statement, if one can be made of it with some tables. -/
def madeView? (scope : Scope) (tables : List Table) (st : Sql.Statement) : Option Table :=
  (projection? st).bind (scope.view? tables)

/-- Views are added one statement after another. -/
theorem foldl_addView_append (scope : Scope) (tables : List Table)
    (before rest : List Sql.Statement) :
    ((before ++ rest).filterMap projection?).foldl scope.addView tables =
      (rest.filterMap projection?).foldl scope.addView
        ((before.filterMap projection?).foldl scope.addView tables) := by
  rw [List.filterMap_append, List.foldl_append]

/-- At its turn a statement adds the view that can be made of it, if any. -/
theorem foldl_addView_cons (scope : Scope) (tables : List Table) (st : Sql.Statement)
    (rest : List Sql.Statement) :
    ((st :: rest).filterMap projection?).foldl scope.addView tables =
      (rest.filterMap projection?).foldl scope.addView
        (tables ++ (scope.madeView? tables st).toList) := by
  rw [List.filterMap_cons, madeView?]
  cases projection? st with
  | none => simp
  | some p => rfl

end Scope

namespace Database

variable {dialect : Dialect} {defaultSchema : Option String} {statements : List Sql.Statement}

/-- A column shows a column of the table that one of the definitions of tables creates, as the
comments on its columns leave it. -/
def ShowsTableColumn (dialect : Dialect) (defaultSchema : Option String)
    (statements : List Sql.Statement) (c : Column) : Prop :=
  ∃ (i : Nat) (d : Sql.TableDefinition) (t : Table),
    (statements.filterMap Scope.definition?)[i]? = some d ∧
    (ofStatements dialect defaultSchema statements).tables[i]? = some t ∧
    Scope.uncommented t = Scope.uncommented
      ((({ dialect, defaultSchema } : Scope).withDomains statements).table d) ∧
    ∃ s ∈ t.columns, c.Shows s

/-- Each column of a view shows a column of a table, through whatever views lie between. -/
theorem showsTableColumn_of_view {v : Table}
    (hv : v ∈ (ofStatements dialect defaultSchema statements).tables) (hview : v.isView = true)
    {c : Column} (hc : c ∈ v.columns) : ShowsTableColumn dialect defaultSchema statements c := by
  let scope := ({ dialect, defaultSchema } : Scope).withDomains statements
  let base := scope.commentedTables (statements.filterMap Scope.definition?)
    (statements.filterMap Scope.comment?)
  obtain ⟨t, ht, s, hs, hshows⟩ : ∃ t ∈ base, ∃ s ∈ t.columns, c.Shows s := by
    rcases scope.viewsShow_foldl_addView (statements.filterMap Scope.projection?) base v hv with
      hbase | ⟨-, hcolumns⟩
    · rw [Scope.isView_of_mem_base hbase] at hview
      cases hview
    · exact hcolumns c hc
  obtain ⟨i, hi⟩ := List.mem_iff_getElem?.mp ht
  have hdefinition := congrArg (fun tables : List Table => tables[i]?)
    (scope.uncommented_commentedTables (statements.filterMap Scope.definition?)
      (statements.filterMap Scope.comment?))
  simp only [List.getElem?_map] at hdefinition
  rw [hi, Option.map_some, eq_comm, Option.map_eq_some_iff] at hdefinition
  obtain ⟨d, hd, hsame⟩ := hdefinition
  exact ⟨i, d, t, hd, getElem?_tables_ofStatements hi, hsame.symm, s, hs, hshows⟩

/-- A view makes no difference to what is read of other statements. -/
theorem filterMap_view {β : Type} {f : Sql.Statement → Option β} {v : Sql.ViewDefinition}
    (hf : f (.view v) = none) (before after : List Sql.Statement) :
    (before ++ .view v :: after).filterMap f = (before ++ after).filterMap f := by
  rw [List.filterMap_append, List.filterMap_cons, hf, List.filterMap_append]

/-- At its turn a view adds what can be made of it, and nothing else. -/
theorem tables_ofStatements_view (dialect : Dialect) (defaultSchema : Option String)
    (before after : List Sql.Statement) (v : Sql.ViewDefinition) :
    let scope := ({ dialect, defaultSchema } : Scope).withDomains (before ++ after)
    let tables := scope.tablesBetween before after
    (ofStatements dialect defaultSchema (before ++ .view v :: after)).tables =
      (after.filterMap Scope.projection?).foldl scope.addView
        (tables ++ (scope.madeView? tables (.view v)).toList) := by
  have hscope : ({ dialect, defaultSchema } : Scope).withDomains (before ++ .view v :: after) =
      ({ dialect, defaultSchema } : Scope).withDomains (before ++ after) := by
    rw [Scope.withDomains, filterMap_view rfl]
    rfl
  rw [tables_ofStatements, hscope, filterMap_view rfl, filterMap_view rfl,
    Scope.foldl_addView_append, Scope.foldl_addView_cons]
  rfl

/-- A view that cannot be made leaves no trace. -/
theorem ofStatements_of_madeView?_eq_none {before after : List Sql.Statement}
    {v : Sql.ViewDefinition}
    (hnone : let scope := ({ dialect, defaultSchema } : Scope).withDomains (before ++ after)
      scope.madeView? (scope.tablesBetween before after) (.view v) = none) :
    ofStatements dialect defaultSchema (before ++ .view v :: after) =
      ofStatements dialect defaultSchema (before ++ after) := by
  have htables : (ofStatements dialect defaultSchema (before ++ .view v :: after)).tables =
      (ofStatements dialect defaultSchema (before ++ after)).tables := by
    rw [tables_ofStatements_view, hnone, Option.toList_none, List.append_nil, tables_ofStatements,
      Scope.foldl_addView_append, ← Scope.tablesBetween]
  have henums : (ofStatements dialect defaultSchema (before ++ .view v :: after)).enums =
      (ofStatements dialect defaultSchema (before ++ after)).enums := by
    let add (enums : Enums) (e : String × List String) := enums.set e.1 e.2
    exact congrArg (List.foldl add [])
      (filterMap_view (f := ({ dialect, defaultSchema } : Scope).enum?) rfl before after)
  exact congrArg₂ Database.mk htables henums

/-- A view that can be made is among the tables. -/
theorem mem_tables_of_madeView? {before after : List Sql.Statement} {v : Sql.ViewDefinition}
    {t : Table}
    (ht : let scope := ({ dialect, defaultSchema } : Scope).withDomains (before ++ after)
      scope.madeView? (scope.tablesBetween before after) (.view v) = some t) :
    t ∈ (ofStatements dialect defaultSchema (before ++ .view v :: after)).tables := by
  rw [tables_ofStatements_view, ht]
  exact (Scope.prefix_foldl_addView _ _).subset (by simp)

end Database

end TableTypes
