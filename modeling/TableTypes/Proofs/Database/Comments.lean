import TableTypes.Proofs.Database.AutoIncrement
import TableTypes.Proofs.Database.ViewSources
import TableTypes.Proofs.Sql.CommentText

/-!
# Comments on columns

A comment goes to the first column of its name in a table of its name, wherever its statement
stands, and of several comments on one column the last one counts. Main statement: the column has
the text of the comment with the quotes in it joined in pairs, which is the text itself exactly when
no two quotes stand beside each other.
-/

namespace TableTypes

/-- The statement that makes a comment on a column. -/
def Sql.columnComment (name : Path) (text : String) : Statement :=
  .comment { ifExists := false, object := "COLUMN", name, text := some text }

namespace Scope

variable {scope : Scope} {owner : QualifiedName} {column : String}

/-! ## Places -/

/-- The place of the first column of a name in a table, if the table has a name. -/
def columnIn? (owner : QualifiedName) (column : String) (t : Table) : Option Nat :=
  if names owner t then t.columns.findIdx? (·.name = column) else none

/-- The first place of a column of a name in the tables of a name: that of the table among all
tables, and that of the column in it. -/
def firstPlace? (owner : QualifiedName) (column : String) : List Table → Option (Nat × Nat)
  | [] => none
  | t :: rest =>
    match columnIn? owner column t with
    | some k => some (0, k)
    | none => (firstPlace? owner column rest).map fun (i, k) => (i + 1, k)

/-- Tables with the column at a place changed. -/
def changeAt (i k : Nat) (f : Column → Column) (tables : List Table) : List Table :=
  tables.modify i fun t => { t with columns := t.columns.modify k f }

/-- A change at a place makes a difference to the column there only. -/
theorem columnAt?_changeAt (tables : List Table) (i k j m : Nat) (f : Column → Column) :
    columnAt? (changeAt i k f tables) j m =
      (columnAt? tables j m).map fun c => if (i, k) = (j, m) then f c else c := by
  rw [columnAt?, columnAt?, changeAt, List.getElem?_modify]
  cases tables[j]? with
  | none => rfl
  | some t =>
    by_cases hi : i = j
    · simp [hi, List.getElem?_modify]
    · simp [hi]

/-- The column at the first place of a name has the name, in a table of the name. -/
theorem exists_of_firstPlace? {tables : List Table} {i k : Nat}
    (h : firstPlace? owner column tables = some (i, k)) :
    ∃ t c, tables[i]? = some t ∧ t.columns[k]? = some c ∧ t.key = owner ∧ c.name = column := by
  induction tables generalizing i with
  | nil => cases h
  | cons t rest ih =>
    unfold firstPlace? at h
    split at h
    · next m hm =>
      cases h
      unfold columnIn? at hm
      split at hm
      · next hname =>
        obtain ⟨hk, hcolumn, -⟩ := List.findIdx?_eq_some_iff_getElem.mp hm
        exact ⟨t, t.columns[k], rfl, List.getElem?_eq_getElem hk, names_iff.mp hname,
          by simpa using hcolumn⟩
      · cases hm
    · obtain ⟨⟨j, m⟩, hfound, heq⟩ := Option.map_eq_some_iff.mp h
      cases heq
      exact ih hfound

/-- A column of a name in a table of a name has a first place. -/
theorem exists_firstPlace? {tables : List Table} {t : Table} {c : Column} (ht : t ∈ tables)
    (hc : c ∈ t.columns) :
    ∃ i k, firstPlace? t.key c.name tables = some (i, k) := by
  induction tables with
  | nil => cases ht
  | cons u rest ih =>
    rw [firstPlace?]
    cases hplace : columnIn? t.key c.name u with
    | some k => exact ⟨0, k, rfl⟩
    | none =>
      have hrest : t ∈ rest := by
        rcases List.mem_cons.mp ht with rfl | hrest
        · rw [columnIn?, if_pos (names_iff.mpr rfl), List.findIdx?_eq_none_iff] at hplace
          simpa using hplace c hc
        · exact hrest
      obtain ⟨i, k, hfound⟩ := ih hrest
      exact ⟨i + 1, k, by simp [hfound]⟩

/-- Where the names of tables and those of the columns of a table are distinct, each column of the
table is the first one of its name. -/
theorem firstPlace?_of_nodup {tables : List Table} (hkeys : (tables.map Table.key).Nodup)
    {i k : Nat} {t : Table} {c : Column} (ht : tables[i]? = some t)
    (hnames : (t.columns.map (·.name)).Nodup) (hc : t.columns[k]? = some c) :
    firstPlace? t.key c.name tables = some (i, k) := by
  obtain ⟨j, m, hplace⟩ := exists_firstPlace? (List.mem_of_getElem? ht) (List.mem_of_getElem? hc)
  obtain ⟨u, d, hu, hd, hkey, hname⟩ := exists_of_firstPlace? hplace
  have hi : i = j := by
    have hlength : i < (tables.map Table.key).length := by
      simpa using (List.getElem?_eq_some_iff.mp ht).1
    exact (List.getElem?_inj hlength hkeys).mp (by simp [ht, hu, hkey])
  subst hi
  obtain rfl : t = u := Option.some.inj (ht.symm.trans hu)
  have hk : k = m := by
    have hlength : k < (t.columns.map (·.name)).length := by
      simpa using (List.getElem?_eq_some_iff.mp hc).1
    exact (List.getElem?_inj hlength hnames).mp (by simp [hc, hd, hname])
  rw [hplace, hk]

/-- A name is sought in further tables only if it has no place in the first ones. -/
theorem firstPlace?_append (tables others : List Table) :
    firstPlace? owner column (tables ++ others) = (firstPlace? owner column tables).or
      ((firstPlace? owner column others).map fun (i, k) => (i + tables.length, k)) := by
  induction tables with
  | nil => simp [firstPlace?]
  | cons t rest ih =>
    rw [List.cons_append, firstPlace?, firstPlace?, ih]
    cases columnIn? owner column t with
    | some k => rfl
    | none =>
      cases firstPlace? owner column rest with
      | some p => rfl
      | none => simp [Function.comp_def, Nat.add_assoc]

/-- Comments make no difference to places. -/
theorem firstPlace?_map_uncommented (tables : List Table) :
    firstPlace? owner column (tables.map uncommented) = firstPlace? owner column tables := by
  have hcolumn (t : Table) : columnIn? owner column (uncommented t) = columnIn? owner column t := by
    have hnames : names owner (uncommented t) = names owner t := rfl
    rw [columnIn?, columnIn?, hnames, uncommented, List.findIdx?_map]
    rfl
  induction tables with
  | nil => rfl
  | cons t rest ih => rw [List.map_cons, firstPlace?, firstPlace?, hcolumn, ih]

/-- The place of a name does not depend on comments. -/
theorem firstPlace?_congr {tables others : List Table}
    (h : tables.map uncommented = others.map uncommented) :
    firstPlace? owner column tables = firstPlace? owner column others := by
  rw [← firstPlace?_map_uncommented, h, firstPlace?_map_uncommented]

/-! ## One comment -/

/-- The first element that a change admits is the first one that has a property. -/
theorem updateFirst?_eq_modify {α : Type} (p : α → Bool) (f : α → α) (as : List α) :
    updateFirst? (fun a => if p a then some (f a) else none) as =
      (as.findIdx? p).map fun i => as.modify i f := by
  induction as with
  | nil => rfl
  | cons a rest ih =>
    rw [updateFirst?, List.findIdx?_cons]
    cases p a with
    | true => rfl
    | false => simp [ih, Function.comp_def]

/-- The first column of a name is changed at its place. -/
theorem updateColumn?_eq_modify (t : Table) (name : String) (f : Column → Column) :
    t.updateColumn? name f = (t.columns.findIdx? (·.name = name)).map fun k =>
      { t with columns := t.columns.modify k f } := by
  have hfirst := updateFirst?_eq_modify (fun c : Column => decide (c.name = name)) f t.columns
  simp only [decide_eq_true_eq] at hfirst
  rw [Table.updateColumn?, hfirst, Option.map_map]
  rfl

/-- The first column of a name in the tables of a name is changed at its first place. -/
theorem updateFirst?_eq_changeAt (f : Column → Column) (tables : List Table) :
    updateFirst? (fun t => if names owner t then t.updateColumn? column f else none) tables =
      (firstPlace? owner column tables).map fun (i, k) => changeAt i k f tables := by
  induction tables with
  | nil => rfl
  | cons t rest ih =>
    have hthere : (if names owner t then t.updateColumn? column f else none) =
        (columnIn? owner column t).map fun k => { t with columns := t.columns.modify k f } := by
      rw [columnIn?, updateColumn?_eq_modify]
      split <;> rfl
    rw [updateFirst?, firstPlace?, hthere, ih]
    cases columnIn? owner column t with
    | some k => rfl
    | none => simp [Function.comp_def, changeAt]

/-- The place of the column that a comment is for. -/
def commentPlace? (scope : Scope) (tables : List Table) (target : String) : Option (Nat × Nat) :=
  (scope.commentTarget? target).bind fun (owner, column) => firstPlace? owner column tables

/-- A comment changes the comment of the column that it is for, and nothing else. -/
theorem columnAt?_applyComment (tables : List Table) (target text : String) (i k : Nat) :
    columnAt? (scope.applyComment tables target text) i k = (columnAt? tables i k).map fun c =>
      if scope.commentPlace? tables target = some (i, k) then { c with comment := some text }
      else c := by
  unfold applyComment commentPlace? commentTarget?
  cases Text.cutLast? '.' target.toList with
  | none => simp
  | some parts =>
    obtain ⟨table, name⟩ := parts
    dsimp only
    rw [updateFirst?_eq_changeAt]
    simp only [Option.map_some, Option.bind_some]
    rcases Option.eq_none_or_eq_some (firstPlace? (scope.qualified (String.ofList table))
      (String.ofList (Text.unquote name)) tables) with hplace | ⟨p, hplace⟩
    · simp [hplace]
    · simp [hplace, columnAt?_changeAt]

/-! ## All comments -/

/-- The place that a comment goes to does not depend on other comments. -/
theorem commentPlace?_congr {tables others : List Table}
    (h : tables.map uncommented = others.map uncommented) (target : String) :
    scope.commentPlace? tables target = scope.commentPlace? others target := by
  unfold commentPlace?
  simp only [firstPlace?_congr h]

/-- Of the comments on a column the last one counts. -/
theorem columnAt?_foldl_applyComment (tables : List Table) (comments : List (String × String))
    (i k : Nat) :
    columnAt? (comments.foldl (fun tables c => scope.applyComment tables c.1 c.2) tables) i k =
      (columnAt? tables i k).map fun c =>
        { c with comment := ((comments.reverse.find? fun c =>
            scope.commentPlace? tables c.1 = some (i, k)).map (·.2)).or c.comment } := by
  induction comments using List.reverseRec with
  | nil => simp
  | append_singleton comments last ih =>
    have hsame : (comments.foldl (fun tables c => scope.applyComment tables c.1 c.2) tables).map
        uncommented = tables.map uncommented :=
      foldl_keeps (map_applyComment uncommented_updateColumn) comments tables
    rw [List.foldl_append, List.foldl_cons, List.foldl_nil, columnAt?_applyComment, ih,
      commentPlace?_congr hsame, Option.map_map, List.reverse_append, List.reverse_singleton,
      List.singleton_append, List.find?_cons]
    congr 1
    funext c
    by_cases hlast : scope.commentPlace? tables last.1 = some (i, k)
    · simp [hlast]
    · simp [hlast]

/-- The column that a statement makes a comment on, and the text of the comment. -/
def commentOn? (scope : Scope) (st : Sql.Statement) : Option ((QualifiedName × String) × String) :=
  (comment? st).bind fun c => (scope.commentTarget? c.1).map fun target => (target, c.2)

/-- The text of the last comment that some statements make on a column. -/
def lastComment? (scope : Scope) (statements : List Sql.Statement)
    (target : QualifiedName × String) : Option String :=
  ((statements.filterMap scope.commentOn?).reverse.find? fun c => c.1 = target).map (·.2)

/-- The last comment on a target is the first one found from the end. -/
theorem lastComment?_eq (statements : List Sql.Statement) (target : QualifiedName × String) :
    scope.lastComment? statements target = ((statements.filterMap comment?).reverse.find? fun c =>
      scope.commentTarget? c.1 = some target).map (·.2) := by
  rw [lastComment?, ← List.filterMap_reverse, ← List.filterMap_reverse]
  induction statements.reverse with
  | nil => rfl
  | cons st rest ih =>
    rw [List.filterMap_cons, List.filterMap_cons, commentOn?]
    cases hcomment : comment? st with
    | none => simpa using ih
    | some c =>
      cases htarget : scope.commentTarget? c.1 with
      | none => simpa [htarget] using ih
      | some other =>
        by_cases hother : other = target
        · simp [htarget, hother]
        · simpa [htarget, hother] using ih

/-- The column at the place of its definition has the text of the last comment on it, if it is the
first column of its name. -/
theorem columnAt?_commentedTables {statements : List Sql.Statement} {i k : Nat} {t : Table}
    {c : Column} (ht : ((statements.filterMap definition?).map scope.table)[i]? = some t)
    (hc : t.columns[k]? = some c) :
    columnAt? (scope.commentedTables (statements.filterMap definition?)
        (statements.filterMap comment?)) i k =
      some { c with comment :=
        (if firstPlace? t.key c.name ((statements.filterMap definition?).map scope.table) =
            some (i, k) then
          scope.lastComment? statements (t.key, c.name) else none).or c.comment } := by
  let base := (statements.filterMap definition?).map scope.table
  have hplace (target : String) : scope.commentPlace? base target = some (i, k) ↔
      firstPlace? t.key c.name base = some (i, k) ∧
        scope.commentTarget? target = some (t.key, c.name) := by
    constructor
    · intro h
      obtain ⟨⟨owner, column⟩, htarget, hfirst⟩ := Option.bind_eq_some_iff.mp h
      obtain ⟨u, d, hu, hd, rfl, rfl⟩ := exists_of_firstPlace? hfirst
      obtain rfl : t = u := Option.some.inj (ht.symm.trans hu)
      obtain rfl : c = d := Option.some.inj (hc.symm.trans hd)
      exact ⟨hfirst, htarget⟩
    · rintro ⟨hfirst, htarget⟩
      rw [commentPlace?, htarget]
      exact hfirst
  have hcolumn : columnAt? base i k = some c := by
    rw [columnAt?, ht, Option.bind_some, hc]
  have hrun := scope.columnAt?_foldl_applyComment base (statements.filterMap comment?) i k
  rw [hcolumn, Option.map_some] at hrun
  refine hrun.trans ?_
  simp only [hplace, lastComment?_eq]
  by_cases hfirst : firstPlace? t.key c.name base = some (i, k)
  · simp [hfirst, base]
  · have hnone : (statements.filterMap comment?).reverse.find? (fun _ => false) = none := by
      simp [List.find?_eq_none]
    simp [hfirst, base, hnone]

/-- The comment behind which no other one is made on its column is the last one. -/
theorem lastComment?_append_cons {before after : List Sql.Statement} {st : Sql.Statement}
    {target : QualifiedName × String} {text : String}
    (hst : scope.commentOn? st = some (target, text))
    (hlast : ∀ later ∈ after, ∀ c ∈ scope.commentOn? later, c.1 ≠ target) :
    scope.lastComment? (before ++ st :: after) target = some text := by
  have hafter :
      (after.filterMap scope.commentOn?).reverse.find? (fun c => c.1 = target) = none := by
    simp only [List.find?_eq_none, List.mem_reverse, List.mem_filterMap, decide_eq_true_eq]
    rintro c ⟨later, hlater, hc⟩
    exact hlast later hlater c hc
  rw [lastComment?, List.filterMap_append, List.filterMap_cons_some hst, List.reverse_append,
    List.reverse_cons, List.append_assoc, List.find?_append, hafter]
  simp

/-- Columns of tables keep their places when views come behind the tables. -/
theorem columnAt?_foldl_addView (projections : List Sql.Projection) {tables : List Table}
    {i k : Nat} {c : Column} (hc : columnAt? tables i k = some c) :
    columnAt? (projections.foldl scope.addView tables) i k = some c := by
  obtain ⟨t, ht, hc⟩ := Option.bind_eq_some_iff.mp hc
  obtain ⟨views, hviews⟩ := scope.prefix_foldl_addView projections tables
  rw [columnAt?, ← hviews, List.getElem?_append_left (List.getElem?_eq_some_iff.mp ht).1, ht]
  exact hc

/-! ## What a statement comments on -/

open Sql (renderPath)

/-- What a path says is read off its canonical text exactly when its names are read as they are. -/
theorem qualified_renderPath_iff {path : Sql.Path} {stated : QualifiedName}
    (hstated : statedName? scope.defaultSchema path = some stated)
    (hunbroken : ∀ n ∈ path, n.IsUnbroken) :
    scope.qualified (renderPath path) = stated ↔ ∀ n ∈ path, n.asRead = n.text := by
  have hdot {n : Sql.Name} (hn : n ∈ path) : '.' ∉ n.render.toList := fun h =>
    (hunbroken n hn _ h).1 rfl
  unfold statedName? at hstated
  split at hstated
  · next name =>
    cases hstated
    have hpath : renderPath [name] = name.render := by simp [renderPath]
    rw [hpath, qualified, QualifiedName.read, Text.splitOn_of_notMem (hdot (by simp))]
    simp [Sql.Name.asRead]
  · next schema name =>
    cases hstated
    have hpath : (renderPath [schema, name]).toList =
        schema.render.toList ++ '.' :: name.render.toList := by
      simp [renderPath]
    rw [qualified, QualifiedName.read, hpath, Text.splitOn_append_cons (hdot (by simp)),
      Text.splitOn_of_notMem (hdot (by simp))]
    simp [Sql.Name.asRead]
  · cases hstated

/-- A path with two names or more has a dot in its text, so that it is cut at its last one. -/
theorem toList_renderPath_concat {defaultSchema : Option String} {owner : Sql.Path}
    {stated : QualifiedName} (hstated : statedName? defaultSchema owner = some stated)
    (column : Sql.Name) : (renderPath (owner ++ [column])).toList =
      (renderPath owner).toList ++ '.' :: column.render.toList := by
  unfold statedName? at hstated
  split at hstated
  · simp [renderPath]
  · simp [renderPath]
  · cases hstated

/-- A comment on a column is read as one on the table and the column that it names. -/
theorem commentTarget?_renderPath {owner : Sql.Path} {column : Sql.Name} {stated : QualifiedName}
    (hstated : statedName? scope.defaultSchema owner = some stated) (hcolumn : column.IsUnbroken) :
    scope.commentTarget? (renderPath (owner ++ [column])) =
      some (scope.qualified (renderPath owner), column.asRead) := by
  have hdot : '.' ∉ column.render.toList := fun h => (hcolumn _ h).1 rfl
  rw [commentTarget?, toList_renderPath_concat hstated, Text.cutLast?_append_cons hdot]
  simp [Sql.Name.asRead]

/-- A path of names without blanks is written without blanks. -/
theorem noBlank_renderPath {path : Sql.Path} (hunbroken : ∀ n ∈ path, n.IsUnbroken) :
    ∀ c ∈ (renderPath path).toList, Unicode.isBlank c = false := by
  intro c hc
  rw [renderPath, String.toList_intercalate, List.map_map] at hc
  rcases mem_intercalate hc with hc | ⟨piece, hpiece, hc⟩
  · obtain rfl := List.mem_singleton.mp hc
    decide
  · obtain ⟨n, hn, rfl⟩ := List.mem_map.mp hpiece
    exact (hunbroken n hn c hc).2

/-- A comment on a column is read as one on the column that it names exactly when it is made without
a condition, gives a text, and its names are read as they are. -/
theorem commentOn?_iff {c : Sql.Comment} {owner : Sql.Path} {column : Sql.Name}
    {stated : QualifiedName} (hname : c.name = owner ++ [column])
    (hstated : statedName? scope.defaultSchema owner = some stated)
    (hunbroken : ∀ n ∈ c.name, n.IsUnbroken) (hobject : c.object = "COLUMN") {text : String} :
    scope.commentOn? (.comment c) = some ((stated, column.text), text) ↔
      c.ifExists = false ∧ (∃ written, c.text = some written ∧ text = Sql.joinedText written) ∧
        ∀ n ∈ c.name, n.asRead = n.text := by
  cases hifExists : c.ifExists with
  | true => simp [commentOn?, comment?, Sql.readComment?_of_ifExists hifExists]
  | false =>
    have hne : renderPath c.name ≠ "" := by
      rw [← String.toList_eq_nil_iff.ne, hname, toList_renderPath_concat hstated]
      simp
    have hnames : scope.qualified (renderPath owner) = stated ∧ column.asRead = column.text ↔
        ∀ n ∈ c.name, n.asRead = n.text := by
      rw [qualified_renderPath_iff hstated fun n hn => hunbroken n (by simp [hname, hn]), hname,
        List.forall_mem_append, List.forall_mem_singleton]
    have htarget : scope.commentTarget? (renderPath c.name) =
        some (scope.qualified (renderPath owner), column.asRead) := by
      rw [hname]
      exact commentTarget?_renderPath hstated (hunbroken column (by simp [hname]))
    have hread : comment? (.comment c) =
        c.text.map fun written => (renderPath c.name, Sql.joinedText written) :=
      Sql.readComment?_render hifExists hobject hne (noBlank_renderPath hunbroken)
    rw [commentOn?, hread, ← hnames]
    cases c.text with
    | none => simp
    | some written =>
      simp only [Option.map_some, Option.bind_some, htarget, Option.some.injEq, Prod.mk.injEq,
        true_and, exists_eq_left', eq_comm (b := text)]
      exact and_comm

/-! ## Columns of tables -/

/-- Constraints leave the names of columns alone. -/
theorem names_table (d : Sql.TableDefinition) :
    (scope.table d).columns.map (·.name) = d.columns.map (·.name.text) := by
  have hupdate (t : Table) (name : String) (f : Column → Column) (hf : ∀ c, (f c).name = c.name) :
      (t.updateColumn name f).columns.map (·.name) = t.columns.map (·.name) := by
    rw [Table.updateColumn_eq]
    exact map_changeColumn hf name t.columns
  have hconstraint (t : Table) (constraint : Sql.TableConstraint) :
      (scope.applyConstraint t constraint).columns.map (·.name) = t.columns.map (·.name) := by
    unfold applyConstraint
    split
    · refine foldl_keeps (g := fun t : Table => t.columns.map (·.name)) (fun t name => ?_) _ t
      exact hupdate t name (fun c => { c with isNullable := false }) fun _ => rfl
    · split
      · exact hupdate t _ _ (name_checked _)
      · rfl
  rw [table, foldl_keeps (g := fun t : Table => t.columns.map (·.name)) hconstraint, List.map_map]
  exact List.map_congr_left fun c _ => name_column c

end Scope

namespace Database

variable {dialect : Dialect} {defaultSchema : Option String} {statements : List Sql.Statement}

/-- A column of the commented tables stands at its place in the database, before the views. -/
theorem columnAt?_of_commentedTables {i k : Nat} {c : Column}
    (hc : let scope := ({ dialect, defaultSchema } : Scope).withDomains statements
      TableTypes.columnAt? (scope.commentedTables (statements.filterMap Scope.definition?)
        (statements.filterMap Scope.comment?)) i k = some c) :
    (ofStatements dialect defaultSchema statements).columnAt? i k = some c :=
  Scope.columnAt?_foldl_addView (statements.filterMap Scope.projection?) hc

/-- The first place of a column in the tables is its first place in the whole database. -/
theorem firstPlace?_ofStatements {owner : QualifiedName} {column : String} {p : Nat × Nat}
    (hp : let scope := ({ dialect, defaultSchema } : Scope).withDomains statements
      Scope.firstPlace? owner column
        ((statements.filterMap Scope.definition?).map scope.table) = some p) :
    Scope.firstPlace? owner column (ofStatements dialect defaultSchema statements).tables =
      some p := by
  let scope := ({ dialect, defaultSchema } : Scope).withDomains statements
  let tables := scope.commentedTables (statements.filterMap Scope.definition?)
    (statements.filterMap Scope.comment?)
  obtain ⟨views, hviews⟩ := scope.prefix_foldl_addView (statements.filterMap Scope.projection?)
    tables
  have htables : Scope.firstPlace? owner column tables = some p := by
    refine (Scope.firstPlace?_congr ?_).trans hp
    rw [Scope.uncommented_commentedTables, List.map_map]
    rfl
  rw [tables_ofStatements, ← hviews, Scope.firstPlace?_append, htables]
  rfl

/-- The last comment on a column of a table becomes the comment of the column, with the quotes in
its text joined in pairs. So the column has the text itself exactly when no two quotes in it stand
beside each other. -/
theorem comment_kept_iff {before after : List Sql.Statement} {owner : Sql.Path} {column : Sql.Name}
    {stated : QualifiedName} (text : String)
    (hstated : statedName? defaultSchema owner = some stated)
    (hnames : ∀ n ∈ owner ++ [column], n.IsUnbroken ∧ n.asRead = n.text)
    (hcolumn : ∃ d, .table d ∈ before ++ after ∧
      ({ dialect, defaultSchema } : Scope).qualified (Scope.plainPath d.name) = stated ∧
      ∃ c ∈ d.columns, c.name.text = column.text)
    (hlast : ∀ later ∈ after, ∀ c ∈ ({ dialect, defaultSchema } : Scope).commentOn? later,
      c.1 ≠ (stated, column.text)) :
    let db := ofStatements dialect defaultSchema
      (before ++ Sql.columnComment (owner ++ [column]) text :: after)
    ∃ i k c, Scope.firstPlace? stated column.text db.tables = some (i, k) ∧
      db.columnAt? i k = some c ∧ c.comment = some (Sql.joinedText text) ∧
      (c.comment = some text ↔ ¬['\'', '\''] <:+: text.toList) := by
  intro db
  let comment := Sql.columnComment (owner ++ [column]) text
  let statements := before ++ comment :: after
  let scope := ({ dialect, defaultSchema } : Scope).withDomains statements
  obtain ⟨d, hd, hkey, definition, hdefinition, hname⟩ := hcolumn
  have hread : scope.commentOn? comment = some ((stated, column.text), Sql.joinedText text) :=
    (Scope.commentOn?_iff rfl hstated (fun n hn => (hnames n hn).1) rfl).mpr
      ⟨rfl, ⟨text, rfl, rfl⟩, fun n hn => (hnames n hn).2⟩
  have htable : scope.table d ∈ (statements.filterMap Scope.definition?).map scope.table := by
    refine List.mem_map_of_mem (List.mem_filterMap.mpr ⟨.table d, ?_, rfl⟩)
    simp only [statements, List.mem_append, List.mem_cons] at hd ⊢
    tauto
  have hmem : column.text ∈ (scope.table d).columns.map (·.name) := by
    rw [Scope.names_table]
    exact List.mem_map.mpr ⟨definition, hdefinition, hname⟩
  have hstands : (scope.table d).key = stated :=
    (congrArg Prod.fst (scope.heading_table d)).trans hkey
  obtain ⟨c, hc, hcname⟩ := List.mem_map.mp hmem
  obtain ⟨i, k, hplace⟩ := Scope.exists_firstPlace? htable hc
  rw [hstands, hcname] at hplace
  obtain ⟨t, c', ht, hc', htkey, hc'name⟩ := Scope.exists_of_firstPlace? hplace
  have hat := columnAt?_of_commentedTables (Scope.columnAt?_commentedTables ht hc')
  rw [htkey, hc'name, if_pos hplace, Scope.lastComment?_append_cons hread hlast] at hat
  refine ⟨i, k, _, firstPlace?_ofStatements hplace, hat, rfl, ?_⟩
  rw [← Sql.joinedText_eq_self_iff]
  simp

/-- A schema of a table with one column and a comment on it. -/
def commentedSchema (text : String) : List Sql.Statement :=
  [Sql.numberTable "t" "x", Sql.columnComment [{ text := "t" }, { text := "x" }] text]

/-- A text of several lines that looks like a comment itself is kept. -/
theorem comment_kept_of_comment :
    let text := "it's\nCOMMENT ON COLUMN t.x IS 'y'"
    ∃ i k c, Scope.firstPlace? { schema := some "public", name := "t" } "x"
        (ofStatements .postgres (some "public") (commentedSchema text)).tables = some (i, k) ∧
      (ofStatements .postgres (some "public") (commentedSchema text)).columnAt? i k = some c ∧
      c.comment = some text := by
  intro text
  let table := Sql.plainTable [{ text := "t" }]
    [{ name := { text := "x" }, type := .known "INT" [] "", options := [] }]
  have hcolumn : ∃ d, Sql.Statement.table d ∈ [.table table] ++ [] ∧
      ({ dialect := .postgres, defaultSchema := some "public" } : Scope).qualified
        (Scope.plainPath d.name) = { schema := some "public", name := "t" } ∧
      ∃ c ∈ d.columns, c.name.text = "x" :=
    ⟨table, by simp, by decide +kernel, _, List.mem_singleton_self _, rfl⟩
  have hnames : ∀ n ∈ [{ text := "t" }] ++ [({ text := "x" } : Sql.Name)],
      n.IsUnbroken ∧ n.asRead = n.text := by decide +kernel
  obtain ⟨i, k, c, hplace, hc, -, hiff⟩ :=
    @comment_kept_iff .postgres (some "public") [.table table] [] [{ text := "t" }] { text := "x" }
      { schema := some "public", name := "t" } text rfl hnames hcolumn (by simp)
  exact ⟨i, k, c, hplace, hc, hiff.mpr (by decide +kernel)⟩

/-- Of two quotes beside each other one is lost. -/
theorem not_comment_kept_of_pair :
    ((ofStatements .postgres (some "public") (commentedSchema "a''b")).columnAt? 0 0).map
        (·.comment) = some (some "a'b") ∧
      Scope.firstPlace? { schema := some "public", name := "t" } "x"
        (ofStatements .postgres (some "public") (commentedSchema "a''b")).tables = some (0, 0) := by
  decide +kernel

end Database

end TableTypes
