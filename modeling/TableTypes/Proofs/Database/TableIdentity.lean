import Mathlib.Data.List.DropRight
import TableTypes.Proofs.Database.CatalogNames
import TableTypes.Proofs.Database.Introspected

/-!
# Tables under their own names

The parts of a table's name are joined with dots, cut at the dots again and freed of the quotes and
blanks around them. So a table has the name that its definition gives it exactly when no part of the
name has a dot in it, or a quote or a blank at one of its ends.
-/

namespace TableTypes

/-! ## Text that is left as it is -/

namespace Text

/-- Whether a character is taken away at the ends of a name. -/
def isStripped (c : Char) : Bool :=
  Unicode.isBlank c || isQuote c

/-- A text that neither begins nor ends with a quote or a blank, and that is not cut at dots. -/
structure IsBare (cs : List Char) : Prop where
  noDot : '.' ∉ cs
  head : cs.head?.any isStripped = false
  last : cs.getLast?.any isStripped = false

instance (cs : List Char) : Decidable (IsBare cs) :=
  decidable_of_iff ('.' ∉ cs ∧ cs.head?.any isStripped = false ∧
    cs.getLast?.any isStripped = false)
    ⟨fun ⟨hdot, hhead, hlast⟩ => ⟨hdot, hhead, hlast⟩, fun h => ⟨h.noDot, h.head, h.last⟩⟩

/-- A character that is not stripped is neither a blank nor a quote. -/
theorem any_isStripped (c : Option Char) :
    c.any isStripped = false ↔ c.any Unicode.isBlank = false ∧ c.any isQuote = false := by
  cases c <;> simp [isStripped]

/-- Nothing is dropped from the front exactly when the first character stays. -/
theorem dropWhile_eq_self_iff {p : Char → Bool} {cs : List Char} :
    cs.dropWhile p = cs ↔ cs.head?.any p = false := by
  cases cs with
  | nil => simp
  | cons c cs => simp [List.dropWhile_eq_self_iff]

/-- Nothing is dropped from the end exactly when the last character stays. -/
theorem rdropWhile_eq_self_iff {p : Char → Bool} {cs : List Char} :
    cs.rdropWhile p = cs ↔ cs.getLast?.any p = false := by
  rw [List.rdropWhile, List.reverse_eq_iff, dropWhile_eq_self_iff, List.head?_reverse]

/-- Two steps that only take characters away leave a text as it is exactly when each of them
does. -/
theorem step_step_eq_self_iff {f g : List Char → List Char} (hf : ∀ cs, (f cs).Sublist cs)
    (hg : ∀ cs, (g cs).Sublist cs) {cs : List Char} : f (g cs) = cs ↔ g cs = cs ∧ f cs = cs := by
  constructor
  · intro h
    have hkept : g cs = cs := (hg cs).antisymm (by simpa [h] using hf (g cs))
    rw [hkept] at h
    exact ⟨hkept, h⟩
  · rintro ⟨hg, hf⟩
    rw [hg, hf]

/-- A text is left as it is when the quotes and blanks around it are taken away exactly when there
are none. -/
theorem unquote_eq_self_iff {cs : List Char} :
    unquote cs = cs ↔ cs.head?.any isStripped = false ∧ cs.getLast?.any isStripped = false := by
  have hfront (p : Char → Bool) (cs : List Char) : (cs.dropWhile p).Sublist cs :=
    List.dropWhile_sublist p
  have hback (p : Char → Bool) (cs : List Char) : (cs.rdropWhile p).Sublist cs :=
    (List.rdropWhile_prefix p cs).sublist
  have htrim (cs : List Char) : (Unicode.trim cs).Sublist cs :=
    (hback Unicode.isBlank _).trans (hfront Unicode.isBlank cs)
  have hopen (cs : List Char) : ((Unicode.trim cs).dropWhile isQuote).Sublist cs :=
    (hfront isQuote _).trans (htrim cs)
  calc unquote cs = cs
      ↔ ((Unicode.trim cs).dropWhile isQuote).rdropWhile isQuote = cs := Iff.rfl
    _ ↔ (Unicode.trim cs).dropWhile isQuote = cs ∧ cs.rdropWhile isQuote = cs :=
      step_step_eq_self_iff (hback isQuote) hopen
    _ ↔ (Unicode.trim cs = cs ∧ cs.dropWhile isQuote = cs) ∧ cs.rdropWhile isQuote = cs := by
      rw [step_step_eq_self_iff (hfront isQuote) htrim]
    _ ↔ ((cs.dropWhile Unicode.isBlank = cs ∧ cs.rdropWhile Unicode.isBlank = cs) ∧
          cs.dropWhile isQuote = cs) ∧ cs.rdropWhile isQuote = cs := by
      have htrimmed : Unicode.trim cs = (cs.dropWhile Unicode.isBlank).rdropWhile Unicode.isBlank :=
        rfl
      rw [htrimmed, step_step_eq_self_iff (hback Unicode.isBlank) (hfront Unicode.isBlank)]
    _ ↔ cs.head?.any isStripped = false ∧ cs.getLast?.any isStripped = false := by
      simp only [dropWhile_eq_self_iff, rdropWhile_eq_self_iff, any_isStripped]
      tauto

/-- A name is bare exactly when it has no dot and loses nothing with its quotes. -/
theorem isBare_iff {cs : List Char} : IsBare cs ↔ '.' ∉ cs ∧ unquote cs = cs := by
  rw [unquote_eq_self_iff]
  exact ⟨fun h => ⟨h.noDot, h.head, h.last⟩, fun ⟨hdot, hhead, hlast⟩ => ⟨hdot, hhead, hlast⟩⟩

end Text

/-! ## Names that are read back -/

namespace QualifiedName

/-- A text without dots is a name in the default schema; any other text has a schema of its own. -/
theorem read_cases (defaultSchema : Option String) (text : String) :
    ('.' ∉ text.toList ∧ read defaultSchema text =
        { schema := defaultSchema, name := String.ofList (Text.unquote text.toList) }) ∨
      ∃ schema ∈ Text.splitOn '.' text.toList, ∃ name ∈ Text.splitOn '.' text.toList,
        read defaultSchema text = { schema := some (String.ofList (Text.unquote schema)),
                                    name := String.ofList (Text.unquote name) } := by
  by_cases hdot : '.' ∈ text.toList
  · right
    have hjoined := Text.intercalate_splitOn '.' text.toList
    rw [read, ← List.map_reverse]
    cases hrev : (Text.splitOn '.' text.toList).reverse with
    | nil => simp [Text.splitOn_ne_nil] at hrev
    | cons name rest =>
      cases rest with
      | nil =>
        -- a single piece would be the whole text, but pieces have no dots
        have hpieces : Text.splitOn '.' text.toList = [name] := by
          simpa using List.reverse_eq_iff.mp hrev
        rw [hpieces, List.intercalate_singleton] at hjoined
        have hname := Text.notMem_of_mem_splitOn (hpieces ▸ List.mem_singleton_self name)
        exact absurd (hjoined ▸ hdot) hname
      | cons schema rest =>
        refine ⟨schema, ?_, name, ?_, rfl⟩
        · exact List.mem_reverse.mp (by simp [hrev])
        · exact List.mem_reverse.mp (by simp [hrev])
  · left
    refine ⟨hdot, ?_⟩
    rw [read, Text.splitOn_of_notMem hdot]
    rfl

/-- What is cut out between dots has none. -/
theorem noDot_of_mem_splitOn {text part : List Char} (h : part ∈ Text.splitOn '.' text) :
    '.' ∉ (String.ofList (Text.unquote part)).toList := by
  rw [String.toList_ofList]
  exact fun hc => Text.notMem_of_mem_splitOn h (Text.unquote_subset part hc)

/-- The name that is read behind the last dot has none. -/
theorem noDot_name_read (defaultSchema : Option String) (text : String) :
    '.' ∉ (read defaultSchema text).name.toList := by
  rcases read_cases defaultSchema text with ⟨hdot, hread⟩ | ⟨_, -, name, hname, hread⟩
  · rw [hread, String.toList_ofList]
    exact fun hc => hdot (Text.unquote_subset _ hc)
  · rw [hread]
    exact noDot_of_mem_splitOn hname

/-- A name alone is read back exactly when it is bare. -/
theorem read_name_iff (defaultSchema : Option String) (name : String) :
    read defaultSchema name = { schema := defaultSchema, name } ↔ Text.IsBare name.toList := by
  rw [Text.isBare_iff]
  constructor
  · intro h
    have hdot : '.' ∉ name.toList := by simpa [h] using noDot_name_read defaultSchema name
    refine ⟨hdot, ?_⟩
    rw [read, Text.splitOn_of_notMem hdot] at h
    rw [← String.ofList_inj, String.ofList_toList]
    exact congrArg QualifiedName.name h
  · rintro ⟨hdot, hname⟩
    rw [read, Text.splitOn_of_notMem hdot]
    simp [hname]

/-- A name behind a schema and a dot is read back exactly when both are bare. -/
theorem read_behind_iff (defaultSchema : Option String) (schema name : String) :
    read defaultSchema (schema ++ "." ++ name) = { schema := some schema, name } ↔
      Text.IsBare schema.toList ∧ Text.IsBare name.toList := by
  have htext : (schema ++ "." ++ name).toList = schema.toList ++ '.' :: name.toList := by simp
  have hread (hschema : '.' ∉ schema.toList) (hname : '.' ∉ name.toList) :
      read defaultSchema (schema ++ "." ++ name) =
        { schema := some (String.ofList (Text.unquote schema.toList))
          name := String.ofList (Text.unquote name.toList) } := by
    rw [read, htext, Text.splitOn_append_cons hschema, Text.splitOn_of_notMem hname]
    rfl
  rw [Text.isBare_iff, Text.isBare_iff]
  constructor
  · intro h
    have hname : '.' ∉ name.toList := by
      simpa [h] using noDot_name_read defaultSchema (schema ++ "." ++ name)
    have hschema : '.' ∉ schema.toList := by
      rcases read_cases defaultSchema (schema ++ "." ++ name) with
        ⟨hdot, -⟩ | ⟨part, hpart, _, -, hparts⟩
      · simp [htext] at hdot
      · rw [h] at hparts
        obtain rfl := Option.some.inj (congrArg QualifiedName.schema hparts)
        exact noDot_of_mem_splitOn hpart
    rw [hread hschema hname] at h
    simp only [mk.injEq, Option.some.injEq, ← String.toList_inj, String.toList_ofList] at h
    exact ⟨⟨hschema, h.1⟩, hname, h.2⟩
  · rintro ⟨⟨hschema, hs⟩, hname, hn⟩
    rw [hread hschema hname]
    simp [hs, hn]

end QualifiedName

/-! ## Tables -/

/-- The schema and the name that a path of one or two names says. -/
def statedName? (defaultSchema : Option String) : Sql.Path → Option QualifiedName
  | [name] => some { schema := defaultSchema, name := name.text }
  | [schema, name] => some { schema := some schema.text, name := name.text }
  | _ => none

/-- The definition of a table with some columns and nothing else. -/
def Sql.plainTable (name : Path) (columns : List ColumnDefinition) : TableDefinition :=
  { orReplace := false, kind := [], ifNotExists := false, name, columns, constraints := []
    model := none, clauses := [], query := none }

/-- What a path says is read off its text exactly when all names in it are bare. -/
theorem qualified_plainPath_iff (scope : Scope) {path : Sql.Path} {stated : QualifiedName}
    (h : statedName? scope.defaultSchema path = some stated) :
    scope.qualified (Scope.plainPath path) = stated ↔
      ∀ name ∈ path, Text.IsBare name.text.toList := by
  unfold statedName? at h
  split at h
  · cases h
    simpa [Scope.qualified, Scope.plainPath] using
      QualifiedName.read_name_iff scope.defaultSchema _
  · cases h
    simpa [Scope.qualified, Scope.plainPath, String.append_assoc] using
      QualifiedName.read_behind_iff scope.defaultSchema _ _
  · cases h

/-- A table stands at the place of its definition, and under the schema and the name that the
definition says exactly when each name in it is bare. -/
theorem exists_table_stated_iff (dialect : Dialect) (defaultSchema : Option String)
    (statements : List Sql.Statement) (i : Nat) (d : Sql.TableDefinition) (stated : QualifiedName)
    (hd : (statements.filterMap Scope.definition?)[i]? = some d)
    (hstated : statedName? defaultSchema d.name = some stated) :
    ∃ t, (Database.ofStatements dialect defaultSchema statements).tables[i]? = some t ∧
      (t.key = stated ↔ ∀ name ∈ d.name, Text.IsBare name.text.toList) := by
  let scope := ({ dialect, defaultSchema } : Scope).withDomains statements
  obtain ⟨t, ht, hdeclared⟩ := Database.exists_table_of_definition dialect defaultSchema hd
  have hheading : t.heading = (scope.table d).heading := congrArg Prod.fst hdeclared
  have hkey : t.key = scope.qualified (Scope.plainPath d.name) :=
    (congrArg Prod.fst hheading).trans (congrArg Prod.fst (scope.heading_table d))
  refine ⟨t, ht, ?_⟩
  rw [hkey]
  exact qualified_plainPath_iff scope hstated

/-- Blanks and quotes inside of a name stay in it. -/
theorem exists_table_of_order_items :
    let d := Sql.plainTable [{ text := "app" }, { text := "order 'x' item", quote := some '"' }] []
    ∃ t, (Database.ofStatements .mysql none [.table d]).tables[0]? = some t ∧
      t.key = { schema := some "app", name := "order 'x' item" } := by
  intro d
  obtain ⟨t, ht, hkey⟩ := exists_table_stated_iff .mysql none [.table d] 0 d
    { schema := some "app", name := "order 'x' item" } rfl rfl
  exact ⟨t, ht, hkey.mpr (by decide +kernel)⟩

/-- A table that is called `a.b` becomes a table `b` of a schema `a`. -/
theorem not_stated_of_dotted_name :
    let d := Sql.plainTable [{ text := "a.b", quote := some '"' }]
      [{ name := { text := "x" }, type := .known "INT" [] "", options := [] }]
    statedName? (some "public") d.name = some { schema := some "public", name := "a.b" } ∧
      (Database.ofStatements .postgres (some "public") [.table d]).tables.map Table.key =
        [{ schema := some "a", name := "b" }] := by
  decide +kernel

end TableTypes
