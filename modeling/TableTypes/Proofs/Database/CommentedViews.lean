import Mathlib.Data.Nat.Pairing
import TableTypes.Proofs.Database.Comments
import TableTypes.Proofs.RelatedLists

/-!
# What comments change

Comments change the comments of columns and nothing else. Main statement: a column of a table has
the last comment that is made on it, and a column of a view has the comment of one column of a
table, whatever comments are made, so that a comment on a column of a view itself is lost.
-/

namespace TableTypes

/-! ## Columns and tables that differ in comments -/

/-- Columns that are the same but for their comments, which stand in a relation. -/
inductive Column.Alike (P : Option String → Option String → Prop) (c : Column) : Column → Prop
  | mk {comment : Option String} (h : P c.comment comment) : Alike P c { c with comment }

/-- Tables that are the same but for the comments of their columns. -/
structure Table.Alike (P : Option String → Option String → Prop) (t u : Table) : Prop where
  heading : t.heading = u.heading
  isPartition : t.isPartition = u.isPartition
  columns : List.Forall₂ (Column.Alike P) t.columns u.columns

variable {P : Option String → Option String → Prop}

/-- Columns that are alike have one name. -/
theorem Column.Alike.name {c d : Column} (h : c.Alike P d) : d.name = c.name := by
  obtain ⟨-⟩ := h
  rfl

/-- The comments of columns that are alike are related. -/
theorem Column.Alike.comment {c d : Column} (h : c.Alike P d) : P c.comment d.comment := by
  obtain ⟨h⟩ := h
  exact h

/-- Columns of views that show alike columns under one name are alike. -/
theorem Column.Alike.viewColumn {c d : Column} (h : c.Alike P d) (name : String) :
    { Scope.viewColumn c with name }.Alike P { Scope.viewColumn d with name } := by
  obtain ⟨h⟩ := h
  exact .mk (c := { Scope.viewColumn c with name }) h

/-- Alike tables are the same without comments. -/
theorem Table.Alike.uncommented {t u : Table} (h : t.Alike P u) :
    Scope.uncommented t = Scope.uncommented u := by
  obtain ⟨hkey, hview⟩ := Prod.mk.inj h.heading
  obtain ⟨hschema, hname⟩ := QualifiedName.mk.inj hkey
  have hcolumns : t.columns.map (fun c => { c with comment := none }) =
      u.columns.map fun c => { c with comment := none } := by
    refine map_eq_of_forall₂ h.columns fun c d hcd => ?_
    obtain ⟨-⟩ := hcd
    rfl
  simp only [Scope.uncommented, Table.mk.injEq]
  exact ⟨hschema, hname, hcolumns, hview, h.isPartition⟩

/-! ## Views -/

namespace Scope

variable {scope : Scope}

/-- An item of a view shows columns of tables that are alike in the same way. -/
theorem rel_itemColumns? {t u : Table} (h : t.Alike P u) (item : List Char) :
    Option.Rel (List.Forall₂ (Column.Alike P)) (itemColumns? t item) (itemColumns? u item) := by
  unfold itemColumns?
  split
  · refine .some ?_
    rw [List.forall₂_map_left_iff, List.forall₂_map_right_iff]
    refine h.columns.imp fun c d hcd => ?_
    obtain ⟨hcomment⟩ := hcd
    exact .mk (c := viewColumn c) hcomment
  · cases Sql.readItem? item with
    | none => exact .none
    | some parts =>
      obtain ⟨name, newName⟩ := parts
      have hcolumn : Option.Rel (Column.Alike P) (t.column? name) (u.column? name) :=
        rel_find? (fun c d hcd => by rw [hcd.name]) h.columns
      simp only [Option.bind_eq_bind, Option.bind_some]
      refine rel_bind hcolumn fun c d hcd => ?_
      have hview := hcd.viewColumn (newName.getD c.name)
      have hname : (Scope.viewColumn d).name = (Scope.viewColumn c).name := hcd.name
      rw [hname]
      exact .some (.cons hview .nil)

/-- Views of alike tables are alike. -/
theorem rel_view? {tables others : List Table} (h : List.Forall₂ (Table.Alike P) tables others)
    (p : Sql.Projection) :
    Option.Rel (Table.Alike P) (scope.view? tables p) (scope.view? others p) := by
  have hsource : Option.Rel (Table.Alike P) (tables.find? (names (scope.qualified p.source)))
      (others.find? (names (scope.qualified p.source))) := by
    refine rel_find? (fun t u htu => ?_) h
    have hkey : t.key = u.key := congrArg Prod.fst htu.heading
    rw [Bool.eq_iff_iff, names_iff, names_iff, hkey]
  refine rel_bind hsource fun t u htu => ?_
  refine rel_bind (rel_mapM (fun item => rel_itemColumns? htu (Unicode.trim item)) _)
    fun columns others hcolumns => ?_
  exact .some ⟨rfl, rfl, List.rel_flatten hcolumns⟩

/-- Views over tables that are alike are alike. -/
theorem alike_foldl_addView {tables others : List Table}
    (h : List.Forall₂ (Table.Alike P) tables others) (projections : List Sql.Projection) :
    List.Forall₂ (Table.Alike P) (projections.foldl scope.addView tables)
      (projections.foldl scope.addView others) := by
  induction projections generalizing tables others with
  | nil => exact h
  | cons p projections ih =>
    refine ih (List.rel_append h ?_)
    have hview : Option.Rel (Table.Alike P) (scope.view? tables p) (scope.view? others p) :=
      rel_view? h p
    generalize scope.view? tables p = v at hview
    generalize scope.view? others p = w at hview
    cases hview with
    | none => exact .nil
    | some hview => exact .cons hview .nil

/-- Comments that stand at one place in some tables and in others. -/
def SamePlace (tables others : List Table) (a b : Option String) : Prop :=
  ∃ i k c d, columnAt? tables i k = some c ∧ columnAt? others i k = some d ∧
    c.comment = a ∧ d.comment = b

/-- Tables that are the same without comments are alike, place by place. -/
theorem alike_of_uncommented {tables others : List Table}
    (h : tables.map uncommented = others.map uncommented) :
    List.Forall₂ (Table.Alike (SamePlace tables others)) tables others := by
  refine forall₂_of_map_eq h fun i t u ht hu htu => ?_
  have hcolumns : t.columns.map (fun c => { c with comment := none }) =
      u.columns.map fun c => { c with comment := none } := congrArg Table.columns htu
  have hheading : (uncommented t).heading = (uncommented u).heading := congrArg Table.heading htu
  have hpartition : (uncommented t).isPartition = (uncommented u).isPartition :=
    congrArg Table.isPartition htu
  refine ⟨hheading, hpartition, ?_⟩
  refine forall₂_of_map_eq hcolumns fun k c d hc hd hcd => ?_
  have hd' : d = { c with comment := d.comment } :=
    congrArg (fun e : Column => { e with comment := d.comment }) hcd.symm
  rw [hd']
  exact .mk ⟨i, k, c, d, by rw [columnAt?, ht, Option.bind_some, hc],
    by rw [columnAt?, hu, Option.bind_some, hd], rfl, rfl⟩

/-- The columns at one place in alike tables have related comments. -/
theorem exists_alike {tables others : List Table} (h : List.Forall₂ (Table.Alike P) tables others)
    {i k : Nat} {c : Column} (hc : columnAt? tables i k = some c) :
    ∃ d, columnAt? others i k = some d ∧ P c.comment d.comment := by
  obtain ⟨t, ht, hc⟩ := Option.bind_eq_some_iff.mp hc
  obtain ⟨u, hu, htu⟩ := exists_getElem?_of_forall₂ h ht
  obtain ⟨d, hd, hcd⟩ := exists_getElem?_of_forall₂ htu.columns hc
  exact ⟨d, by rw [columnAt?, hu, Option.bind_some, hd], hcd.comment⟩

/-! ## The column that a column of a view comes from -/

/-- A comment that no other place has. -/
def tag (i k : Nat) : String :=
  String.ofList (List.replicate (Nat.pair i k) 'x')

/-- A tag tells its place. -/
theorem tag_inj {i k j m : Nat} (h : tag i k = tag j m) : i = j ∧ k = m := by
  have hlength := congrArg (fun s : String => s.toList.length) h
  simpa [tag] using hlength

/-- Tables in which the comment of each column tells its place. -/
def tagged (tables : List Table) : List Table :=
  tables.mapIdx fun i t =>
    { t with columns := t.columns.mapIdx fun k c => { c with comment := some (tag i k) } }

/-- Tags make no difference beside the comments. -/
theorem map_uncommented_tagged (tables : List Table) :
    (tagged tables).map uncommented = tables.map uncommented := by
  have hcolumns (i : Nat) (cs : List Column) :
      (cs.mapIdx fun k c => { c with comment := some (tag i k) }).map
        (fun c => { c with comment := none }) = cs.map fun c => { c with comment := none } := by
    refine List.ext_getElem? fun k => ?_
    rw [List.getElem?_map, List.getElem?_mapIdx, Option.map_map, List.getElem?_map]
    rfl
  refine List.ext_getElem? fun i => ?_
  rw [tagged, List.getElem?_map, List.getElem?_mapIdx, Option.map_map, List.getElem?_map]
  refine congrArg (fun f => tables[i]?.map f) (funext fun t => ?_)
  simp only [Function.comp_apply, uncommented, hcolumns]

/-- A tagged column has the tag of its place. -/
theorem comment_of_columnAt?_tagged {tables : List Table} {i k : Nat} {c : Column}
    (hc : columnAt? (tagged tables) i k = some c) : c.comment = some (tag i k) := by
  obtain ⟨t, ht, hc⟩ := Option.bind_eq_some_iff.mp hc
  rw [tagged, List.getElem?_mapIdx, Option.map_eq_some_iff] at ht
  obtain ⟨t, -, rfl⟩ := ht
  rw [List.getElem?_mapIdx, Option.map_eq_some_iff] at hc
  obtain ⟨c, -, rfl⟩ := hc
  rfl

/-- Each column of tables and views has the comment of one column of the tables, the same one
whatever the comments are. -/
theorem exists_source (scope : Scope) (projections : List Sql.Projection) {tables : List Table}
    {i k : Nat} {e : Column}
    (he : columnAt? (projections.foldl scope.addView tables) i k = some e) :
    ∃ j m, (∃ s, columnAt? tables j m = some s) ∧
      ∀ others : List Table, others.map uncommented = tables.map uncommented →
        ∃ c d, columnAt? (projections.foldl scope.addView others) i k = some c ∧
          columnAt? others j m = some d ∧ c.comment = d.comment := by
  have hviews {tables others : List Table} (h : tables.map uncommented = others.map uncommented) :=
    scope.alike_foldl_addView (alike_of_uncommented h) projections
  obtain ⟨marked, hmarked, j, m, s, source, hs, hsource, -, hmark⟩ :=
    exists_alike (hviews (map_uncommented_tagged tables).symm) he
  refine ⟨j, m, ⟨s, hs⟩, fun others hothers => ?_⟩
  obtain ⟨c, hc, j', m', source', d, hsource', hd, hmark', hcomment⟩ :=
    exists_alike (hviews ((map_uncommented_tagged tables).trans hothers.symm)) hmarked
  -- the comment of the tagged column tells that both places are the same
  rw [← hmark, comment_of_columnAt?_tagged hsource, comment_of_columnAt?_tagged hsource',
    Option.some.injEq] at hmark'
  obtain ⟨rfl, rfl⟩ := tag_inj hmark'
  exact ⟨c, d, hc, hd, hcomment.symm⟩

end Scope

/-! ## Databases with and without comments -/

/-- Whether a statement makes a comment. -/
def Sql.Statement.isComment : Statement → Bool
  | .comment _ => true
  | _ => false

/-- Statements without those that make comments. -/
def Sql.withoutComments (statements : List Statement) : List Statement :=
  statements.filter fun st => !st.isComment

/-- What comments are not read for is read as well without them. -/
theorem Sql.filterMap_withoutComments {β : Type} {f : Statement → Option β}
    (hf : ∀ c, f (.comment c) = none) (statements : List Statement) :
    (withoutComments statements).filterMap f = statements.filterMap f := by
  rw [withoutComments, List.filterMap_filter]
  refine List.filterMap_congr fun st _ => ?_
  cases st with
  | comment c => simp [Statement.isComment, hf]
  | _ => rfl

/-- Without comments no comment is read. -/
theorem Sql.filterMap_comment?_withoutComments (statements : List Statement) :
    (withoutComments statements).filterMap Scope.comment? = [] := by
  rw [withoutComments, List.filterMap_filter, List.filterMap_eq_nil_iff]
  intro st _
  cases st with
  | comment c => rfl
  | _ => simp [Scope.comment?]

namespace Database

variable {dialect : Dialect} {defaultSchema : Option String} {statements : List Sql.Statement}

/-- Statements that differ in their comments declare the same tables, and views of them. -/
theorem tables_of_withoutComments_eq {others : List Sql.Statement}
    (hothers : Sql.withoutComments others = Sql.withoutComments statements) :
    let scope := ({ dialect, defaultSchema } : Scope).withDomains statements
    (ofStatements dialect defaultSchema others).tables =
      (statements.filterMap Scope.projection?).foldl scope.addView
        (scope.commentedTables (statements.filterMap Scope.definition?)
          (others.filterMap Scope.comment?)) := by
  have hsame {β : Type} {f : Sql.Statement → Option β} (hf : ∀ c, f (.comment c) = none) :
      others.filterMap f = statements.filterMap f := by
    rw [← Sql.filterMap_withoutComments hf, hothers, Sql.filterMap_withoutComments hf]
  have hscope : ({ dialect, defaultSchema } : Scope).withDomains others =
      ({ dialect, defaultSchema } : Scope).withDomains statements := by
    rw [Scope.withDomains, hsame fun _ => rfl]
    rfl
  rw [tables_ofStatements, hscope, hsame (f := Scope.projection?) fun _ => rfl,
    hsame (f := Scope.definition?) fun _ => rfl]

/-- Without comments the tables are those of the definitions, and the views show them. -/
theorem tables_withoutComments :
    let scope := ({ dialect, defaultSchema } : Scope).withDomains statements
    (ofStatements dialect defaultSchema (Sql.withoutComments statements)).tables =
      (statements.filterMap Scope.projection?).foldl scope.addView
        ((statements.filterMap Scope.definition?).map scope.table) := by
  intro scope
  have hagain : Sql.withoutComments (Sql.withoutComments statements) =
      Sql.withoutComments statements := by
    simp [Sql.withoutComments]
  rw [tables_of_withoutComments_eq hagain, Sql.filterMap_comment?_withoutComments]
  rfl

/-- The enums of a database do not depend on comments. -/
theorem enums_withoutComments :
    (ofStatements dialect defaultSchema (Sql.withoutComments statements)).enums =
      (ofStatements dialect defaultSchema statements).enums := by
  let add (enums : Enums) (e : String × List String) := enums.set e.1 e.2
  exact congrArg (List.foldl add [])
    (Sql.filterMap_withoutComments (f := ({ dialect, defaultSchema } : Scope).enum?) (fun _ => rfl)
      statements)

/-- A database and the one without its comments are the same without comments. -/
theorem map_uncommented_withoutComments :
    (ofStatements dialect defaultSchema (Sql.withoutComments statements)).tables.map
        Scope.uncommented =
      (ofStatements dialect defaultSchema statements).tables.map Scope.uncommented := by
  let scope := ({ dialect, defaultSchema } : Scope).withDomains statements
  have hbase : ((statements.filterMap Scope.definition?).map scope.table).map Scope.uncommented =
      (scope.commentedTables (statements.filterMap Scope.definition?)
        (statements.filterMap Scope.comment?)).map Scope.uncommented := by
    rw [scope.uncommented_commentedTables, List.map_map]
    rfl
  rw [tables_withoutComments, tables_ofStatements]
  exact map_eq_of_forall₂ (scope.alike_foldl_addView (Scope.alike_of_uncommented hbase) _)
    fun _ _ => Table.Alike.uncommented

/-- A table that is no view stands at the place of its definition, and its columns have their places
among the tables of definitions. -/
theorem getElem?_of_not_isView {i : Nat} {t : Table}
    (ht : (ofStatements dialect defaultSchema (Sql.withoutComments statements)).tables[i]? = some t)
    (hview : t.isView = false) :
    let scope := ({ dialect, defaultSchema } : Scope).withDomains statements
    let base := (statements.filterMap Scope.definition?).map scope.table
    base[i]? = some t ∧ ∀ owner column k,
      Scope.firstPlace? owner column
          (ofStatements dialect defaultSchema (Sql.withoutComments statements)).tables =
        some (i, k) ↔ Scope.firstPlace? owner column base = some (i, k) := by
  intro scope base
  obtain ⟨views, hviews, htables, -⟩ := scope.exists_foldl_addView_eq (fun _ => rfl : ∀ name,
    base.find? (Scope.names name) = base.find? (Scope.names name))
    (statements.filterMap Scope.projection?)
  rw [tables_withoutComments, htables] at ht ⊢
  have hi : i < base.length := by
    by_contra hi
    rw [List.getElem?_append_right (Nat.le_of_not_lt hi)] at ht
    rw [hviews t (List.mem_of_getElem? ht)] at hview
    cases hview
  rw [List.getElem?_append_left hi] at ht
  refine ⟨ht, fun owner column k => ?_⟩
  rw [Scope.firstPlace?_append]
  cases Scope.firstPlace? owner column base with
  | some p => rfl
  | none =>
    -- a place among the views is behind all tables
    refine iff_of_false (fun h => ?_) (by simp)
    obtain ⟨⟨j, m⟩, -, heq⟩ := Option.map_eq_some_iff.mp h
    have hj : j + base.length = i := congrArg Prod.fst heq
    omega

/-- Any column has the comment of one column of a table, whatever comments are made. -/
theorem exists_commented_source {i k : Nat} {c : Column}
    (hc : (ofStatements dialect defaultSchema (Sql.withoutComments statements)).columnAt? i k =
      some c) :
    ∃ j m t s, (ofStatements dialect defaultSchema (Sql.withoutComments statements)).tables[j]? =
        some t ∧ t.isView = false ∧ t.columns[m]? = some s ∧
      ∀ others, Sql.withoutComments others = Sql.withoutComments statements →
        ((ofStatements dialect defaultSchema others).columnAt? i k).map (·.comment) =
          ((ofStatements dialect defaultSchema others).columnAt? j m).map (·.comment) := by
  let scope := ({ dialect, defaultSchema } : Scope).withDomains statements
  let base := (statements.filterMap Scope.definition?).map scope.table
  have hplain : (ofStatements dialect defaultSchema (Sql.withoutComments statements)).tables =
      (statements.filterMap Scope.projection?).foldl scope.addView base := tables_withoutComments
  rw [columnAt?, hplain] at hc
  obtain ⟨j, m, ⟨s, hs⟩, hsource⟩ :=
    scope.exists_source (statements.filterMap Scope.projection?) hc
  obtain ⟨t, ht, hs⟩ := Option.bind_eq_some_iff.mp hs
  have hview : t.isView = false := by
    obtain ⟨definition, -, rfl⟩ := List.mem_map.mp (List.mem_of_getElem? ht)
    exact congrArg Prod.snd (Scope.heading_table definition)
  refine ⟨j, m, t, s, ?_, hview, hs, fun others hothers => ?_⟩
  · obtain ⟨views, hviews⟩ := scope.prefix_foldl_addView (statements.filterMap Scope.projection?)
      base
    rw [hplain, ← hviews, List.getElem?_append_left (List.getElem?_eq_some_iff.mp ht).1]
    exact ht
  · let commented := scope.commentedTables (statements.filterMap Scope.definition?)
      (others.filterMap Scope.comment?)
    have hsame : commented.map Scope.uncommented = base.map Scope.uncommented := by
      rw [scope.uncommented_commentedTables, List.map_map]
      rfl
    obtain ⟨d, s', hd, hs', hcomment⟩ := hsource commented hsame
    have hs'' := scope.columnAt?_foldl_addView (statements.filterMap Scope.projection?) hs'
    rw [← tables_of_withoutComments_eq hothers] at hd hs''
    have hcolumn : (ofStatements dialect defaultSchema others).columnAt? i k = some d := hd
    have hshown : (ofStatements dialect defaultSchema others).columnAt? j m = some s' := hs''
    rw [hcolumn, hshown, Option.map_some, Option.map_some, hcomment]

/-- Comments change nothing but the comments of columns. A column of a table has the last comment
that is made on it, if it is the first one of its name, as it is where names are distinct. Any
column has the comment of one column of a table, whatever comments are made, so that a comment on a
column of a view is lost. A comment on a column is read as one on the column that it names exactly
when it is made without a condition, gives a text, and its names are read as they are. A comment on
anything else is not read. -/
theorem comments_reach_tables (dialect : Dialect) (defaultSchema : Option String)
    (statements : List Sql.Statement) :
    let scope : Scope := { dialect, defaultSchema }
    let db := ofStatements dialect defaultSchema statements
    let plain := ofStatements dialect defaultSchema (Sql.withoutComments statements)
    (db.enums = plain.enums ∧
      db.tables.map Scope.uncommented = plain.tables.map Scope.uncommented) ∧
    (∀ i k t c, plain.tables[i]? = some t → t.isView = false → t.columns[k]? = some c →
      ((plain.tables.map Table.key).Nodup → (t.columns.map (·.name)).Nodup →
        Scope.firstPlace? t.key c.name plain.tables = some (i, k)) ∧
      db.columnAt? i k = some { c with comment :=
        (if Scope.firstPlace? t.key c.name plain.tables = some (i, k) then
          scope.lastComment? statements (t.key, c.name) else none).or c.comment }) ∧
    (∀ i k c, plain.columnAt? i k = some c →
      ∃ j m t s, plain.tables[j]? = some t ∧ t.isView = false ∧ t.columns[m]? = some s ∧
        ∀ others, Sql.withoutComments others = Sql.withoutComments statements →
          ((ofStatements dialect defaultSchema others).columnAt? i k).map (·.comment) =
            ((ofStatements dialect defaultSchema others).columnAt? j m).map (·.comment)) ∧
    (∀ (c : Sql.Comment) owner column stated text, c.object = "COLUMN" →
      c.name = owner ++ [column] → statedName? defaultSchema owner = some stated →
      (∀ n ∈ c.name, n.IsUnbroken) →
      (scope.commentOn? (.comment c) = some ((stated, column.text), text) ↔
        c.ifExists = false ∧ (∃ written, c.text = some written ∧ text = Sql.joinedText written) ∧
          ∀ n ∈ c.name, n.asRead = n.text)) ∧
    ∀ c : Sql.Comment, c.object ∈ Sql.otherObjects → scope.commentOn? (.comment c) = none := by
  intro scope db plain
  refine ⟨⟨enums_withoutComments.symm, map_uncommented_withoutComments.symm⟩,
    ?_, ?_, ?_, ?_⟩
  · intro i k t c ht hview hc
    obtain ⟨hbase, hplace⟩ := getElem?_of_not_isView ht hview
    refine ⟨fun hkeys hnames => Scope.firstPlace?_of_nodup hkeys ht hnames hc, ?_⟩
    simp only [plain, hplace]
    exact columnAt?_of_commentedTables (Scope.columnAt?_commentedTables hbase hc)
  · intro i k c hc
    exact exists_commented_source hc
  · exact fun c owner column stated text hobject hname hstated hunbroken =>
      Scope.commentOn?_iff hname hstated hunbroken hobject
  · intro c hobject
    have hnone : Scope.comment? (.comment c) = none := Sql.readComment?_of_otherObject hobject
    rw [Scope.commentOn?, hnone, Option.bind_none]

/-- A column of a table has the second one of two comments, of which one stands before the table and
the other one behind it. -/
theorem comments_reach_column_of_numbers :
    let column (owner : List Sql.Name) : Sql.Path := owner ++ [{ text := "a" }]
    let statements := [Sql.columnComment (column [{ text := "t" }]) "first",
      Sql.numberTable "t" "a",
      .view (Sql.viewOf (.mk [] (.select (Sql.columnOf "a" "t" none)) [])),
      Sql.columnComment (column [{ text := "public" }, { text := "T", quote := some '"' }]) "other",
      Sql.columnComment (column [{ text := "public" }, { text := "t", quote := some '"' }]) "last"]
    let plain := ofStatements .postgres (some "public") (Sql.withoutComments statements)
    let db := ofStatements .postgres (some "public") statements
    ∃ c, plain.columnAt? 0 0 = some c ∧ db.columnAt? 0 0 = some { c with comment := some "last" } ∧
      db.columnAt? 1 0 = some { c with comment := some "last" } := by
  intro column statements plain db
  let c : Column := { name := "a", dataType := "int4", isNullable := true }
  let t : Table := { schema := some "public", name := "t", columns := [c] }
  obtain ⟨-, htables, -, -, -⟩ := comments_reach_tables .postgres (some "public") statements
  have ht : plain.tables[0]? = some t := by decide +kernel
  have hlast : ({ dialect := .postgres, defaultSchema := some "public" } : Scope).lastComment?
      statements (t.key, c.name) = some "last" := by decide +kernel
  obtain ⟨hplace, hc⟩ := htables 0 0 t c ht rfl rfl
  rw [if_pos (hplace (by decide +kernel) (by decide)), hlast] at hc
  exact ⟨c, by decide +kernel, hc, by decide +kernel⟩

/-- A comment on a column of a view is lost, although it is read as one on the column. -/
theorem not_commented_of_view :
    let comment := Sql.columnComment [{ text := "v" }, { text := "a" }] "x"
    let statements := [Sql.numberTable "t" "a",
      .view (Sql.viewOf (.mk [] (.select (Sql.columnOf "a" "t" none)) [])), comment]
    let v : QualifiedName := { schema := some "public", name := "v" }
    ({ dialect := .postgres, defaultSchema := some "public" } : Scope).commentOn? comment =
        some ((v, "a"), "x") ∧
      Scope.firstPlace? v "a" (ofStatements .postgres (some "public") statements).tables =
        some (1, 0) ∧
      ((ofStatements .postgres (some "public") statements).columnAt? 1 0).map (·.comment) =
        some none := by
  decide +kernel

end Database

end TableTypes
