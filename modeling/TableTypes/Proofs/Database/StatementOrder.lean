import Mathlib.Data.List.Pairwise
import Mathlib.Data.List.Perm.Basic
import TableTypes.Proofs.Database.TableNames
import TableTypes.Proofs.Dictionary

/-!
# The order of the statements of a schema

A schema may declare the enums and domains that its tables use, and comment on their columns, before
the tables or after them. Main statement: where nothing is declared twice, two orders of the
statements declare one database up to the order of its tables. Only the views have to keep their
order, since a view may select from an earlier one.
-/

namespace TableTypes

/-- The definition of the view that a statement declares. -/
def Sql.Statement.view? : Sql.Statement → Option Sql.ViewDefinition
  | .view v => some v
  | _ => none

namespace Scope

variable {scope : Scope}

/-! ## Tables of definitions -/

/-- A constraint leaves the name of its table alone. -/
theorem heading_applyConstraint (t : Table) (constraint : Sql.TableConstraint) :
    (scope.applyConstraint t constraint).heading = t.heading := by
  unfold applyConstraint
  split
  · refine Table.heading_foldl ?_ _ t
    exact fun t name => Table.heading_updateColumn t name _
  · split
    · exact Table.heading_updateColumn ..
    · rfl

/-- The table of a definition has the name that the definition gives it, and is no view. -/
theorem heading_table (d : Sql.TableDefinition) :
    (scope.table d).heading = (scope.qualified (plainPath d.name), false) :=
  Table.heading_foldl heading_applyConstraint d.constraints _

/-! ## Comments -/

/-- The table and the column that a comment is for, if its target has a dot. -/
def commentTarget? (scope : Scope) (target : String) : Option (QualifiedName × String) :=
  (Text.cutLast? '.' target.toList).map fun (table, column) =>
    (scope.qualified (String.ofList table), String.ofList (Text.unquote column))

/-- A table after a comment, which changes it only if the comment is for one of its columns. -/
def annotate (scope : Scope) (t : Table) (comment : String × String) : Table :=
  match scope.commentTarget? comment.1 with
  | some (owner, column) =>
    if names owner t then t.updateColumn column fun c => { c with comment := some comment.2 } else t
  | none => t

/-- A comment leaves the name of a table alone. -/
theorem heading_annotate (t : Table) (comment : String × String) :
    (scope.annotate t comment).heading = t.heading := by
  unfold annotate
  split
  · split
    · exact Table.heading_updateColumn ..
    · rfl
  · rfl

/-- A comment leaves the key of a table alone. -/
theorem key_annotate (t : Table) (comment : String × String) :
    (scope.annotate t comment).key = t.key :=
  congrArg Prod.fst (heading_annotate t comment)

/-- Where the names of tables are distinct, changing the first table of a name changes each table of
that name. -/
theorem updateFirst?_names {tables : List Table} (hkeys : (tables.map Table.key).Nodup)
    (owner : QualifiedName) (f : Table → Option Table) :
    ((updateFirst? (fun t => if names owner t then f t else none) tables).getD tables) =
      tables.map fun t => if names owner t then (f t).getD t else t := by
  induction tables with
  | nil => rfl
  | cons t rest ih =>
    obtain ⟨hfirst, hrest⟩ := List.nodup_cons.mp hkeys
    have hkept : ((updateFirst? (fun t => if names owner t then f t else none) rest).map
        (t :: ·)).getD (t :: rest) =
        t :: rest.map fun t => if names owner t then (f t).getD t else t := by
      rw [← ih hrest]
      cases updateFirst? (fun t => if names owner t then f t else none) rest <;> rfl
    unfold updateFirst?
    by_cases hname : names owner t = true
    · cases hresult : f t with
      | none => simpa [hname, hresult] using hkept
      | some u =>
        -- no later table has the name of this one
        have hothers : (rest.map fun t => if names owner t then (f t).getD t else t) = rest := by
          refine (List.map_congr_left fun r hr => if_neg ?_).trans (List.map_id rest)
          intro hr'
          have hkey : r.key = t.key := (names_iff.mp hr').trans (names_iff.mp hname).symm
          exact hfirst (hkey ▸ List.mem_map_of_mem hr)
        simp [hname, hresult, hothers]
    · simpa [hname] using hkept

/-- Where the names of tables are distinct, a comment is made on each table by itself. -/
theorem applyComment_eq_map {tables : List Table} (hkeys : (tables.map Table.key).Nodup)
    (target comment : String) :
    scope.applyComment tables target comment =
      tables.map fun t => scope.annotate t (target, comment) := by
  unfold applyComment annotate commentTarget?
  cases Text.cutLast? '.' target.toList with
  | none => exact (List.map_id tables).symm
  | some parts => exact updateFirst?_names hkeys _ _

/-- Where the names of tables are distinct, all comments are made on each table by itself. -/
theorem foldl_applyComment_eq_map {tables : List Table} (hkeys : (tables.map Table.key).Nodup)
    (comments : List (String × String)) :
    comments.foldl (fun tables (target, comment) => scope.applyComment tables target comment)
      tables = tables.map fun t => comments.foldl scope.annotate t := by
  induction comments generalizing tables with
  | nil => exact (List.map_id tables).symm
  | cons comment rest ih =>
    have hkept : (tables.map fun t => scope.annotate t comment).map Table.key =
        tables.map Table.key := by
      rw [List.map_map]
      exact List.map_congr_left fun t _ => key_annotate t comment
    obtain ⟨target, text⟩ := comment
    rw [List.foldl_cons]
    dsimp only
    rw [applyComment_eq_map hkeys, ih (hkept ▸ hkeys), List.map_map]
    rfl

/-- A comment on a column of another table leaves a table as it is. -/
theorem annotate_eq_self {t : Table} {comment : String × String}
    (hother : ∀ column, scope.commentTarget? comment.1 ≠ some (t.key, column)) :
    scope.annotate t comment = t := by
  unfold annotate
  split
  · next owner column htarget =>
    refine if_neg fun hname => hother column ?_
    rw [htarget, names_iff.mp hname]
  · rfl

/-- A comment on a column of a table changes that column. -/
theorem annotate_eq_updateColumn {t : Table} {comment : String × String} {column : String}
    (htarget : scope.commentTarget? comment.1 = some (t.key, column)) :
    scope.annotate t comment =
      t.updateColumn column fun c => { c with comment := some comment.2 } := by
  simp only [annotate, htarget, names_iff.mpr rfl, if_true]

/-- Comments that are not for one column. -/
def Apart (scope : Scope) (p q : String × String) : Prop :=
  ∀ a, scope.commentTarget? p.1 = some a → ∀ b, scope.commentTarget? q.1 = some b → a ≠ b

instance : Std.Symm scope.Apart where
  symm _ _ h a ha b hb := (h b hb a ha).symm

/-- Comments that are not for one column can be made in either order. -/
theorem annotate_comm {p q : String × String} (hapart : scope.Apart p q) (t : Table) :
    scope.annotate (scope.annotate t p) q = scope.annotate (scope.annotate t q) p := by
  have hself {c : String × String} (d : String × String)
      (hother : ∀ column, scope.commentTarget? c.1 ≠ some (t.key, column)) :
      scope.annotate (scope.annotate t d) c = scope.annotate t d :=
    annotate_eq_self (by simpa only [key_annotate] using hother)
  have hupdate {c : String × String} {column : String} (d : String × String)
      (htarget : scope.commentTarget? c.1 = some (t.key, column)) :
      scope.annotate (scope.annotate t d) c =
        (scope.annotate t d).updateColumn column fun e => { e with comment := some c.2 } :=
    annotate_eq_updateColumn (by simpa only [key_annotate] using htarget)
  by_cases hp : ∃ column, scope.commentTarget? p.1 = some (t.key, column)
  · by_cases hq : ∃ column, scope.commentTarget? q.1 = some (t.key, column)
    · obtain ⟨column, hp⟩ := hp
      obtain ⟨other, hq⟩ := hq
      have hcolumn : column ≠ other := by
        rintro rfl
        exact hapart _ hp _ hq rfl
      rw [hupdate p hq, hupdate q hp, annotate_eq_updateColumn hp, annotate_eq_updateColumn hq]
      refine Table.updateColumn_comm hcolumn ?_ ?_ t
      · exact fun _ => rfl
      · exact fun _ => rfl
    · rw [not_exists] at hq
      rw [hself p hq, annotate_eq_self hq]
  · rw [not_exists] at hp
    rw [hself q hp, annotate_eq_self hp]

/-- Where no column is commented on twice, comments can be made in any order. -/
theorem foldl_annotate_eq_of_perm {comments others : List (String × String)}
    (hperm : comments.Perm others)
    (htargets : (comments.filterMap fun c => scope.commentTarget? c.1).Nodup) (t : Table) :
    comments.foldl scope.annotate t = others.foldl scope.annotate t := by
  have hapart : comments.Pairwise scope.Apart := List.pairwise_filterMap.mp htargets
  refine hperm.foldl_eq' ?_ t
  intro p hp q hq t
  by_cases hpq : p = q
  · rw [hpq]
  · exact annotate_comm (hapart.forall hp hq hpq) t

/-! ## Commented tables -/

/-- The tables of some definitions after some comments on their columns. -/
def commentedTables (scope : Scope) (definitions : List Sql.TableDefinition)
    (comments : List (String × String)) : List Table :=
  comments.foldl (fun tables (target, comment) => scope.applyComment tables target comment)
    (definitions.map scope.table)

/-- The names that some definitions give to their tables. -/
def definedNames (scope : Scope) (definitions : List Sql.TableDefinition) : List QualifiedName :=
  definitions.map fun d => scope.qualified (plainPath d.name)

variable {definitions : List Sql.TableDefinition} {comments : List (String × String)}

/-- Where no two tables have one name, each takes the comments on itself by itself. -/
theorem commentedTables_eq_map (hnames : (scope.definedNames definitions).Nodup) :
    scope.commentedTables definitions comments =
      definitions.map fun d => comments.foldl scope.annotate (scope.table d) := by
  have hkeys : (definitions.map scope.table).map Table.key = scope.definedNames definitions := by
    rw [List.map_map]
    exact List.map_congr_left fun d _ => congrArg Prod.fst (heading_table d)
  rw [commentedTables, foldl_applyComment_eq_map (hkeys ▸ hnames), List.map_map]
  rfl

/-- Tables keep the names of their definitions after comments, and none of them is a view. -/
theorem heading_commentedTables (hnames : (scope.definedNames definitions).Nodup) :
    (scope.commentedTables definitions comments).map Table.heading =
      (scope.definedNames definitions).map fun name => (name, false) := by
  rw [commentedTables_eq_map hnames, definedNames, List.map_map, List.map_map]
  refine List.map_congr_left fun d _ => ?_
  exact (Table.heading_foldl heading_annotate comments _).trans (heading_table d)

/-- Comments leave tables with distinct names distinct. -/
theorem nodup_key_commentedTables (hnames : (scope.definedNames definitions).Nodup) :
    ((scope.commentedTables definitions comments).map Table.key).Nodup := by
  have hheading : ((scope.commentedTables definitions comments).map Table.heading).map Prod.fst =
      ((scope.definedNames definitions).map fun name => (name, false)).map Prod.fst :=
    congrArg (List.map Prod.fst) (heading_commentedTables hnames)
  rw [List.map_map, List.map_map] at hheading
  have hkeys : (scope.commentedTables definitions comments).map Table.key =
      scope.definedNames definitions := hheading.trans (List.map_id _)
  exact hkeys ▸ hnames

/-- The tables of definitions are no views. -/
theorem isView_of_mem_commentedTables (hnames : (scope.definedNames definitions).Nodup) {t : Table}
    (ht : t ∈ scope.commentedTables definitions comments) : t.isView = false := by
  have hmem := List.mem_map_of_mem (f := Table.heading) ht
  rw [heading_commentedTables hnames] at hmem
  obtain ⟨name, -, hname⟩ := List.mem_map.mp hmem
  exact (congrArg Prod.snd hname).symm

/-- Where nothing is declared twice, other orders of the definitions and of the comments give the
same tables up to their order. -/
theorem commentedTables_perm {definitions' : List Sql.TableDefinition}
    {comments' : List (String × String)} (hdefinitions : definitions.Perm definitions')
    (hcomments : comments.Perm comments') (hnames : (scope.definedNames definitions).Nodup)
    (htargets : (comments.filterMap fun c => scope.commentTarget? c.1).Nodup) :
    (scope.commentedTables definitions comments).Perm
      (scope.commentedTables definitions' comments') := by
  have hnames' : (scope.definedNames definitions').Nodup := (hdefinitions.map _).nodup_iff.mp hnames
  rw [commentedTables_eq_map hnames, commentedTables_eq_map hnames']
  simp only [foldl_annotate_eq_of_perm hcomments htargets]
  exact hdefinitions.map _

/-! ## Views -/

/-- A view depends on what tables are found by name only. -/
theorem view?_congr {tables others : List Table}
    (hfind : ∀ name, tables.find? (names name) = others.find? (names name)) (p : Sql.Projection) :
    scope.view? tables p = scope.view? others p := by
  unfold view?
  rw [hfind]

/-- What a declaration of a view makes is a view. -/
theorem isView_of_view? {tables : List Table} {p : Sql.Projection} {v : Table}
    (hv : scope.view? tables p = some v) : v.isView = true := by
  unfold view? at hv
  simp only [Option.bind_eq_bind, Option.bind_eq_some_iff, Option.pure_def, Option.some.injEq] at hv
  obtain ⟨source, -, columns, -, rfl⟩ := hv
  rfl

/-- The views behind tables depend on what tables are found by name only. -/
theorem exists_foldl_addView_eq (scope : Scope) {tables others : List Table}
    (hfind : ∀ name, tables.find? (names name) = others.find? (names name))
    (projections : List Sql.Projection) :
    ∃ views : List Table, (∀ v ∈ views, v.isView = true) ∧
      projections.foldl scope.addView tables = tables ++ views ∧
      projections.foldl scope.addView others = others ++ views := by
  induction projections generalizing tables others with
  | nil => exact ⟨[], by simp, by simp, by simp⟩
  | cons p rest ih =>
    have hview : scope.view? tables p = scope.view? others p := view?_congr hfind p
    have hfind' (name : QualifiedName) :
        (scope.addView tables p).find? (names name) =
          (scope.addView others p).find? (names name) := by
      simp only [addView, List.find?_append, hfind, hview]
    obtain ⟨views, hviews, htables, hothers⟩ := ih hfind'
    refine ⟨(scope.view? tables p).toList ++ views, ?_, ?_, ?_⟩
    · intro v hv
      rcases List.mem_append.mp hv with hv | hv
      · exact isView_of_view? (Option.mem_toList.mp hv)
      · exact hviews v hv
    · rw [List.foldl_cons, htables, addView, List.append_assoc]
    · rw [List.foldl_cons, hothers, addView, ← hview, List.append_assoc]

/-- What is selected by the views of some statements depends on their definitions only. -/
theorem filterMap_projection?_congr {statements others : List Sql.Statement}
    (hviews : statements.filterMap Sql.Statement.view? = others.filterMap Sql.Statement.view?) :
    statements.filterMap projection? = others.filterMap projection? := by
  have hview (statements : List Sql.Statement) : statements.filterMap projection? =
      (statements.filterMap Sql.Statement.view?).filterMap fun v => Sql.readView? v.render := by
    rw [List.filterMap_filterMap]
    refine List.filterMap_congr fun s _ => ?_
    cases s <;> simp [projection?, Sql.Statement.view?]
  rw [hview, hview, hviews]

/-! ## Statements -/

/-- No table, enum, domain or comment on a column is declared twice by some statements. Enums and
domains are told apart without regard to capitals. -/
structure DeclaresOnce (scope : Scope) (statements : List Sql.Statement) : Prop where
  tables : (scope.definedNames (statements.filterMap definition?)).Nodup
  enums : ((statements.filterMap scope.enum?).map fun e => Unicode.lowercase e.1).Nodup
  domains : ((statements.filterMap scope.domain?).map (·.1)).Nodup
  comments : ((statements.filterMap comment?).filterMap fun c => scope.commentTarget? c.1).Nodup

/-- The scope in which the domains of some statements are known. -/
def withDomains (scope : Scope) (statements : List Sql.Statement) : Scope :=
  { scope with domains := Dictionary.ofPairs (statements.filterMap scope.domain?) }

/-- Domains with distinct keys can be declared in any order. -/
theorem withDomains_eq_of_perm {statements others : List Sql.Statement}
    (hperm : statements.Perm others)
    (honce : ((statements.filterMap scope.domain?).map (·.1)).Nodup) :
    scope.withDomains statements = scope.withDomains others := by
  unfold withDomains
  rw [Dictionary.ofPairs_eq_of_perm (hperm.filterMap _) honce]

end Scope

namespace Database

/-- Pairs with distinct keys in small letters make one collection of enums in whatever order they
come. -/
theorem foldl_set_eq_of_perm {pairs others : List (String × List String)}
    (hperm : pairs.Perm others) (hkeys : (pairs.map fun e => Unicode.lowercase e.1).Nodup) :
    pairs.foldl (fun (enums : Enums) (key, labels) => enums.set key labels) [] =
      others.foldl (fun (enums : Enums) (key, labels) => enums.set key labels) [] := by
  have hofPairs (pairs : List (String × List String)) :
      pairs.foldl (fun (enums : Enums) (key, labels) => enums.set key labels) [] =
        Dictionary.ofPairs (pairs.map fun e => (Unicode.lowercase e.1, e.2)) := by
    rw [Dictionary.ofPairs, List.foldl_map]
    rfl
  rw [hofPairs, hofPairs]
  refine Dictionary.ofPairs_eq_of_perm (hperm.map _) ?_
  rwa [List.map_map]

/-- The tables and then the views that some statements declare. -/
theorem tables_ofStatements (dialect : Dialect) (defaultSchema : Option String)
    (statements : List Sql.Statement) :
    let scope := ({ dialect, defaultSchema } : Scope).withDomains statements
    (ofStatements dialect defaultSchema statements).tables =
      (statements.filterMap Scope.projection?).foldl scope.addView
        (scope.commentedTables (statements.filterMap Scope.definition?)
          (statements.filterMap Scope.comment?)) :=
  rfl

/-- Where nothing is declared twice, two orders of the statements of a schema that keep the order of
its views declare the same enums, the same tables up to their order, and the same views. -/
theorem ofStatements_of_perm {dialect : Dialect} {defaultSchema : Option String}
    {statements others : List Sql.Statement} (hperm : statements.Perm others)
    (hviews : statements.filterMap Sql.Statement.view? = others.filterMap Sql.Statement.view?)
    (honce : ({ dialect, defaultSchema } : Scope).DeclaresOnce statements) :
    let d := ofStatements dialect defaultSchema statements
    let e := ofStatements dialect defaultSchema others
    d.enums = e.enums ∧
      (d.tables.filter fun t => !t.isView).Perm (e.tables.filter fun t => !t.isView) ∧
      (d.tables.filter fun t => t.isView) = e.tables.filter fun t => t.isView := by
  intro d e
  let scope := ({ dialect, defaultSchema } : Scope).withDomains statements
  have hscope : ({ dialect, defaultSchema } : Scope).withDomains others = scope :=
    (Scope.withDomains_eq_of_perm hperm honce.domains).symm
  let ts := scope.commentedTables (statements.filterMap Scope.definition?)
    (statements.filterMap Scope.comment?)
  let us := scope.commentedTables (others.filterMap Scope.definition?)
    (others.filterMap Scope.comment?)
  have hnames : (scope.definedNames (statements.filterMap Scope.definition?)).Nodup := honce.tables
  have hnames' : (scope.definedNames (others.filterMap Scope.definition?)).Nodup :=
    ((hperm.filterMap _).map _).nodup_iff.mp hnames
  have hperm' : ts.Perm us :=
    Scope.commentedTables_perm (hperm.filterMap _) (hperm.filterMap _) hnames honce.comments
  have hfind := find?_names_eq_of_perm hperm' (Scope.nodup_key_commentedTables hnames)
  obtain ⟨views, hareViews, hts, hus⟩ :=
    scope.exists_foldl_addView_eq hfind (statements.filterMap Scope.projection?)
  have hd : d.tables = ts ++ views := hts
  have he : e.tables = us ++ views := by
    rw [tables_ofStatements, hscope, ← Scope.filterMap_projection?_congr hviews, ← hus]
  have hnotTables : views.filter (fun t => !t.isView) = [] :=
    List.filter_eq_nil_iff.mpr fun v hv => by simp [hareViews v hv]
  have hnotViews {ds : List Sql.TableDefinition} {cs : List (String × String)}
      (hds : (scope.definedNames ds).Nodup) :
      (scope.commentedTables ds cs).filter (fun t => t.isView) = [] :=
    List.filter_eq_nil_iff.mpr fun t ht => by simp [Scope.isView_of_mem_commentedTables hds ht]
  refine ⟨foldl_set_eq_of_perm (hperm.filterMap _) honce.enums, ?_, ?_⟩
  · rw [hd, he, List.filter_append, List.filter_append, hnotTables]
    simpa using hperm'.filter _
  · rw [hd, he, List.filter_append, List.filter_append, hnotViews hnames, hnotViews hnames']

/-- A comment before its table, a table before the domain of its column, and an enum behind both
declare what the usual order declares. -/
theorem ofStatements_of_reversed_schema :
    let mood : Sql.Statement := .type [{ text := "Mood" }] (.enum [{ text := "ok" }])
    let label : Sql.Statement := .domain
      { name := [{ text := "label" }], type := .known "TEXT" [] "", collation := none
        default := none, constraints := [] }
    let people : Sql.Statement := .table
      { orReplace := false, kind := [], ifNotExists := false, name := [{ text := "people" }]
        columns := [{ name := { text := "nick" }, type := .named [{ text := "label" }] []
                      options := [] }]
        constraints := [], model := none, clauses := [], query := none }
    let comment : Sql.Statement := .comment
      { ifExists := false, object := "COLUMN", name := [{ text := "people" }, { text := "nick" }]
        text := some "short" }
    let nicks : Sql.Statement := .view
      { orAlter := false, orReplace := false, parameters := "", secure := false
        materialized := false, temporary := false, ifNotExists := false, nameFirst := false
        name := [{ text := "nicks" }], columns := [], options := []
        query := .mk [] (.select (.mk [] [.expr (.name [{ text := "nick" }]) none]
          [.table [{ text := "people" }] [] []] none [])) [] }
    let statements := [mood, label, people, comment, nicks]
    let d := ofStatements .postgres none statements
    let e := ofStatements .postgres none statements.reverse
    let nick : Column :=
      { name := "nick", dataType := "text", isNullable := true, comment := some "short" }
    let peopleTable : Table := { schema := none, name := "people", columns := [nick] }
    let nicksView : Table :=
      { schema := none, name := "nicks", columns := [nick], isView := true }
    d = { tables := [peopleTable, nicksView], enums := [("mood", ["ok"])] } ∧ d.enums = e.enums ∧
      (d.tables.filter fun t => !t.isView).Perm (e.tables.filter fun t => !t.isView) ∧
      (d.tables.filter fun t => t.isView) = e.tables.filter fun t => t.isView := by
  intro mood label people comment nicks statements d e nick peopleTable nicksView
  have honce : ({ dialect := .postgres, defaultSchema := none } : Scope).DeclaresOnce statements :=
    { tables := by decide
      enums := by decide
      domains := by decide
      comments := by decide }
  have hdeclared : d = { tables := [peopleTable, nicksView], enums := [("mood", ["ok"])] } := by
    decide +kernel
  exact ⟨hdeclared, ofStatements_of_perm (List.reverse_perm statements).symm rfl honce⟩

end Database

end TableTypes
