import TableTypes.Proofs.Database.TableIdentity
import TableTypes.Proofs.Database.Views
import TableTypes.Proofs.Sql.SelectionText

/-!
# What views select from

A view that can be made has columns of the only source of the first selection of its query, and this
is a table or view that is named there. If the query is that one selection, this is what the view
selects. If the selection is followed by others and has a condition, the others are overlooked, and
the view is made as if they were not there.
-/

namespace TableTypes

/-! ## Names that end with a sign -/

/-- A last character that stays is dropped with none before it. -/
theorem dropWhile_concat {p : Char → Bool} {c : Char} (hc : p c = false) (cs : List Char) :
    (cs ++ [c]).dropWhile p = cs.dropWhile p ++ [c] := by
  rw [List.dropWhile_append]
  split
  · next hnil => simp [List.isEmpty_iff.mp hnil, hc]
  · rfl

/-- Taking away quotes and blanks leaves a sign that is neither at the end of a name. -/
theorem Text.exists_unquote_concat {c : Char} (hblank : Unicode.isBlank c = false)
    (hquote : isQuote c = false) (cs : List Char) :
    ∃ front, unquote (cs ++ [c]) = front ++ [c] := by
  refine ⟨(cs.dropWhile Unicode.isBlank).dropWhile isQuote, ?_⟩
  rw [unquote, Unicode.trim, dropWhile_concat hblank, Unicode.trimEnd, List.reverse_concat,
    List.dropWhile_cons_of_neg (by simp [hblank]), List.reverse_cons, List.reverse_reverse,
    dropWhile_concat hquote, List.reverse_concat,
    List.dropWhile_cons_of_neg (by simp [hquote]), List.reverse_cons, List.reverse_reverse]

/-- A name behind its schema ends like the text in which it is written. -/
theorem QualifiedName.getLast?_name_read {c : Char} (hblank : Unicode.isBlank c = false)
    (hquote : Text.isQuote c = false) (hdot : c ≠ '.') (defaultSchema : Option String)
    {text : String} (h : text.toList.getLast? = some c) :
    (read defaultSchema text).name.toList.getLast? = some c := by
  obtain ⟨pieces, last, hpieces⟩ :
      ∃ pieces last, Text.splitOn '.' text.toList = pieces ++ [last ++ [c]] := by
    cases hcut : Text.cutLast? '.' text.toList with
    | none =>
      obtain ⟨front, hfront⟩ := List.getLast?_eq_some_iff.mp h
      refine ⟨[], front, ?_⟩
      rw [Text.splitOn_of_notMem (Text.cutLast?_eq_none_iff.mp hcut), hfront, List.nil_append]
    | some parts =>
      have htext := Text.cutLast?_eq_some hcut
      rw [htext, List.getLast?_append, List.getLast?_cons, Option.some_or, Option.some.injEq] at h
      have hlast : parts.2.getLast? = some c := by
        cases hend : parts.2.getLast? with
        | none =>
          rw [hend] at h
          exact absurd h.symm hdot
        | some d =>
          rw [hend] at h
          exact congrArg some h
      obtain ⟨front, hfront⟩ := List.getLast?_eq_some_iff.mp hlast
      refine ⟨Text.splitOn '.' parts.1, front, ?_⟩
      rw [htext, Text.splitOn_append, Text.splitOn_of_notMem (Text.notMem_of_cutLast? hcut), hfront]
  obtain ⟨front, hfront⟩ := Text.exists_unquote_concat hblank hquote last
  have hname : (read defaultSchema text).name = String.ofList (Text.unquote (last ++ [c])) := by
    rw [read, hpieces, List.map_append, List.map_singleton, List.reverse_concat]
    split
    · next heq => exact (List.cons.inj heq).1.symm
    · next heq => exact (List.cons.inj heq).1.symm
    · next heq => cases heq
  rw [hname, hfront, String.toList_ofList, List.getLast?_concat]

namespace Scope

variable {scope : Scope} {tables : List Table}

/-- The items of a view that can be made can all be read. -/
theorem readsAsItems_of_view? {p : Sql.Projection} {t : Table}
    (h : scope.view? tables p = some t) : Sql.ReadsAsItems p.items.toList := by
  unfold view? at h
  simp only [Option.bind_eq_bind, Option.bind_eq_some_iff] at h
  obtain ⟨source, -, columns, hcolumns, -⟩ := h
  intro item hitem
  obtain ⟨found, hfound⟩ := Option.isSome_iff_exists.mp (isSome_of_mapM hcolumns hitem)
  unfold itemColumns? at hfound
  split at hfound
  · next hstar => exact .inl hstar
  · simp only [Option.bind_eq_bind, Option.bind_eq_some_iff] at hfound
    obtain ⟨read, hread, -⟩ := hfound
    exact .inr (Option.isSome_of_eq_some hread)

/-- A view is made of the only selection that is read in its query. -/
theorem madeView?_eq_some_iff {v : Sql.ViewDefinition} (hv : v.IsLegible) {t : Table} :
    scope.madeView? tables (.view v) = some t ↔
      (v.hasPlainKind && v.hasPlainName) = true ∧
        ∃ s, v.query.Reads s ∧ scope.view? tables (v.projection s) = some t := by
  rw [madeView?, projection?, Option.bind_eq_some_iff]
  constructor
  · rintro ⟨p, hread, hview⟩
    obtain ⟨hplain, s, hreads, rfl, -⟩ :=
      (Sql.ViewDefinition.readView?_eq_some_iff hv).mp ⟨hread, readsAsItems_of_view? hview⟩
    exact ⟨hplain, s, hreads, hview⟩
  · rintro ⟨hplain, s, hreads, hview⟩
    have hitems : Sql.ReadsAsItems s.listed := by
      simpa [Sql.ViewDefinition.projection] using readsAsItems_of_view? hview
    obtain ⟨hread, -⟩ :=
      (Sql.ViewDefinition.readView?_eq_some_iff hv).mpr ⟨hplain, s, hreads, rfl, hitems⟩
    exact ⟨_, hread, hview⟩

/-- The source of a view that is made is named, if no table has a name that could be more. -/
theorem exists_path_of_view? (htables : ∀ t ∈ tables, t.name.toList.getLast? ≠ some ')')
    {v : Sql.ViewDefinition} {s : Sql.Select} (hs : s.IsLegible) (hreads : v.query.Reads s)
    {t : Table} (h : scope.view? tables (v.projection s) = some t) :
    ∃ path, s.sources = [.table path [] []] := by
  obtain ⟨source, hsources, htext⟩ := hreads.exists_source
  rcases hs.named source (hsources ▸ List.mem_singleton_self source) with
    ⟨path, rfl⟩ | ⟨c, hc, hblank⟩ | hlast
  · exact ⟨path, hsources⟩
  · rw [hreads.noBlank c (htext ▸ hc)] at hblank
    cases hblank
  · unfold view? at h
    simp only [Option.bind_eq_bind, Option.bind_eq_some_iff] at h
    obtain ⟨u, hu, -⟩ := h
    have hnames := List.find?_some hu
    rw [Sql.ViewDefinition.projection, names, Bool.and_eq_true, decide_eq_true_eq] at hnames
    refine absurd ?_ (htables u (List.mem_of_find?_eq_some hu))
    rw [hnames.1]
    exact QualifiedName.getLast?_name_read (by decide) (by decide) (by decide) _ (htext ▸ hlast)

/-- A view whose first selection has a condition is made like that selection alone. -/
theorem madeView?_onlyFirst {v : Sql.ViewDefinition} (hv : v.IsLegible) {s : Sql.Select}
    (hfirst : v.query.first? = some s) (hcondition : s.condition.isSome = true) :
    scope.madeView? tables (.view v) = scope.madeView? tables (.view (v.onlyFirst s)) := by
  refine Option.ext fun t => ?_
  rw [madeView?_eq_some_iff hv, madeView?_eq_some_iff (hv.onlyFirst hfirst hcondition)]
  simp only [Sql.ViewDefinition.reads_onlyFirst_iff hfirst hcondition]
  rfl

end Scope

/-! ## Views of a schema -/

namespace Database

/-- A view is made of one selection from one table or view that is named there, or of several
selections of which the first is one and has a condition, and then like this selection alone. A view
that is not made leaves no trace. -/
theorem views_select_from_one_table (dialect : Dialect) (defaultSchema : Option String)
    (before after : List Sql.Statement) (v : Sql.ViewDefinition) (hv : v.IsLegible)
    (htables : let scope := ({ dialect, defaultSchema } : Scope).withDomains (before ++ after)
      ∀ t ∈ scope.tablesBetween before after, t.name.toList.getLast? ≠ some ')') :
    let scope := ({ dialect, defaultSchema } : Scope).withDomains (before ++ after)
    let made (v : Sql.ViewDefinition) :=
      scope.madeView? (scope.tablesBetween before after) (.view v)
    let db := ofStatements dialect defaultSchema (before ++ .view v :: after)
    (made v = none → db = ofStatements dialect defaultSchema (before ++ after)) ∧
      (∀ t, made v = some t → t ∈ db.tables ∧ t.isView = true ∧
        (v.query.IsOfOneTable ∨ ∃ s, v.query.IsOperationOn s ∧ s.condition.isSome = true ∧
          (v.onlyFirst s).query.IsOfOneTable ∧ made (v.onlyFirst s) = some t)) ∧
      ∀ s, v.query.first? = some s → s.condition.isSome = true → made v = made (v.onlyFirst s) := by
  intro scope made db
  have honly (s : Sql.Select) (hfirst : v.query.first? = some s)
      (hcondition : s.condition.isSome = true) : made v = made (v.onlyFirst s) :=
    Scope.madeView?_onlyFirst hv hfirst hcondition
  refine ⟨fun hnone => ofStatements_of_madeView?_eq_none hnone, fun t ht => ?_, honly⟩
  obtain ⟨-, s, hreads, hmade⟩ := (Scope.madeView?_eq_some_iff hv).mp ht
  refine ⟨mem_tables_of_madeView? ht, Scope.isView_of_view? hmade, ?_⟩
  obtain ⟨path, hsources⟩ :=
    Scope.exists_path_of_view? htables (hv.selection s hreads.first) hreads hmade
  rcases hreads.isOperationOn with ⟨clauses, hquery⟩ | ⟨hoperation, hcondition⟩
  · exact .inl ⟨s, clauses, path, hquery, hsources⟩
  · refine .inr ⟨s, hoperation, hcondition, ⟨s, [], path, rfl, hsources⟩, ?_⟩
    rw [← honly s hreads.first hcondition]
    exact ht

end Database

/-- A table with one column of numbers. -/
def Sql.numberTable (name column : String) : Statement :=
  .table (plainTable [{ text := name }]
    [{ name := { text := column }, type := .known "INT" [] "", options := [] }])

/-- A selection of a column from a table. -/
def Sql.columnOf (column table : String) (condition : Option Expr) : Select :=
  .mk [] [.expr (.name [{ text := column }]) none] [.table [{ text := table }] [] []] condition []

/-- The selection of the rows of `t` in which `a` is one. -/
def Sql.ones : Select :=
  columnOf "a" "t" (some (.binary (.name [{ text := "a" }]) "=" (.literal (.number "1" false))))

/-- A view `v` of a query. -/
def Sql.viewOf (query : Query) : ViewDefinition :=
  { orAlter := false, orReplace := false, parameters := "", secure := false, materialized := false
    temporary := false, ifNotExists := false, nameFirst := false, name := [{ text := "v" }]
    columns := [], options := [], query }

/-- The selection of ones is legible. -/
theorem Sql.isLegible_ones : ones.IsLegible where
  heading := by decide
  items := by
    have hlisted : ones.listed = ['a'] := by decide
    rw [hlisted]
    have hwords : words ['a'] = [['a']] :=
      words_eq_singleton (by decide) (List.forall_mem_singleton.mpr (by decide))
    refine isItemText_of_words ⟨'a', [], rfl, by decide⟩ ⟨⟨'a', rfl, by decide⟩, ?_⟩ ?_
    · rw [hwords]
      simp [SpellsWord]
    · rw [hwords]
      simp [SpellsWord]
  target := .inl rfl
  sources := fun _ => by
    have htext : ones.sourceText.toList = ['t'] := by decide
    rw [htext]
    exact isSourceText_of_noBlank (by decide) (List.forall_mem_singleton.mpr (by decide))
  named := fun source hsource => .inl ⟨_, List.mem_singleton.mp hsource⟩

/-- The view is called `v`. -/
theorem Sql.toList_renderPath_viewOf (query : Query) :
    (renderPath (viewOf query).name).toList = ['v'] := by
  change (renderPath [{ text := "v" }]).toList = ['v']
  decide

/-- A view whose first selection is that of ones is legible. -/
theorem Sql.isLegible_viewOf {query : Query} (h : query.first? = some ones) :
    (viewOf query).IsLegible where
  parameters := .inl rfl
  name := mt String.toList_eq_nil_iff.mpr (by rw [toList_renderPath_viewOf]; decide)
  noBlank := by
    rw [toList_renderPath_viewOf]
    exact List.forall_mem_singleton.mpr (by decide)
  options := .inl rfl
  query := ⟨'S', _, Query.toList_render isLegible_ones h, by decide⟩
  noSelection := fun hnone => by
    rw [viewOf, h] at hnone
    cases hnone
  selection := fun s hs => by
    obtain rfl : ones = s := Option.some.inj (h.symm.trans hs)
    exact isLegible_ones
  behind := fun s hs hnone => by
    obtain rfl : ones = s := Option.some.inj (h.symm.trans hs)
    cases hnone

namespace Database

/-- A view of some rows of a table is made of a query from that table. -/
theorem views_select_from_one_table_of_ones :
    let v := Sql.viewOf (.mk [] (.select Sql.ones) [])
    let view : Table :=
      { schema := none, name := "v", isView := true
        columns := [{ name := "a", dataType := "int4", isNullable := true }] }
    view ∈ (ofStatements .postgres none [Sql.numberTable "t" "a", .view v]).tables ∧
      v.query.IsOfOneTable := by
  intro v view
  obtain ⟨-, hmade, -⟩ := views_select_from_one_table .postgres none [Sql.numberTable "t" "a"] [] v
    (Sql.isLegible_viewOf rfl) (by decide +kernel)
  obtain ⟨hmem, -, hquery⟩ := hmade view (by decide +kernel)
  refine ⟨hmem, hquery.resolve_right ?_⟩
  rintro ⟨s, ⟨left, operator, right, clauses, hoperation, -⟩, -⟩
  cases hoperation

/-- A view of some rows of a table and all rows of another one is made, of the first table only. -/
theorem not_isOfOneTable_of_union :
    let u := Sql.columnOf "a" "u" none
    let v := Sql.viewOf (.mk [] (.operation (.select Sql.ones) "UNION" (.select u)) [])
    let statements := [Sql.numberTable "t" "a", Sql.numberTable "u" "a", .view v]
    v.render = "CREATE VIEW v AS SELECT a FROM t WHERE a = 1 UNION SELECT a FROM u" ∧
      ¬v.query.IsOfOneTable ∧
      (ofStatements .postgres (some "public") statements).tables.map (fun t => (t.name, t.isView)) =
        [("t", false), ("u", false), ("v", true)] := by
  refine ⟨by decide +kernel, ?_, by decide +kernel⟩
  rintro ⟨s, clauses, path, hselection, -⟩
  cases hselection

end Database

end TableTypes
