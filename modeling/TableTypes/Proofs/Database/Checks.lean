import TableTypes.Proofs.Database.Introspected
import TableTypes.Proofs.Sql.StringLists

/-!
# What checks make of columns

In SQLite a check that a column is one of some labels makes the column an enum of these labels. The
check is known by its text alone, and any condition whose text reads as a list counts. Such a check
is sound exactly when the whole condition is a list of string constants for the column and the
labels that are read off it are these constants.
-/

namespace TableTypes

open Sql

/-- What a check makes of a column is sound if the column keeps its data type and its labels, or if
the whole condition is that this column is one of some string constants, and these are its labels in
ascending order. -/
def SoundChange (condition : Expr) (c c' : Column) : Prop :=
  (c'.dataType = c.dataType ∧ c'.enumValues = c.enumValues) ∨
    ∃ n constants, condition = stringList n constants ∧ n.text = c.name ∧
      c'.dataType = inlineEnumType ∧
      c'.enumValues = some (Enums.sorted (constants.map (·.2)))

/-- A check of a column is sound for all columns. -/
def SoundOption (condition : Expr) (enforced : Option Bool) : Prop :=
  ∀ scope : Scope, scope.dialect = .sqlite → ∀ c,
    SoundChange condition c (scope.applyOption c (.check condition enforced))

/-- A check of a table, with or without a name, is sound for the columns of all tables. -/
def SoundConstraint (name : Option Name) (condition : Expr) (enforced : Option Bool) : Prop :=
  ∀ scope : Scope, scope.dialect = .sqlite → ∀ t : Table,
    List.Forall₂ (SoundChange condition) t.columns
      (scope.applyConstraint t (.check name condition enforced)).columns

/-- Some labels for a column are what a condition says: it is that the column is one of some string
constants, which are these labels in some order. -/
def SaysLabels (condition : Expr) (column : String) (labels : List String) : Prop :=
  ∃ n constants, condition = stringList n constants ∧ n.text = column ∧
    Enums.sorted labels = Enums.sorted (constants.map (·.2))

/-- A name without blanks. -/
def IsUnbroken (n : Name) : Prop :=
  n.render ≠ "" ∧ ∀ c ∈ n.render.toList, Unicode.isBlank c = false

/-- A column that is not changed is changed soundly. -/
theorem SoundChange.refl (condition : Expr) (c : Column) : SoundChange condition c c :=
  .inl ⟨rfl, rfl⟩

namespace Scope

variable {scope : Scope} {condition : Expr} {enforced : Option Bool} {name : Option Name}

/-- Values that a condition says of a column change it soundly. -/
theorem soundChange_checked (hdialect : scope.dialect = .sqlite) {labels : List String} {c : Column}
    (h : SaysLabels condition c.name labels) :
    SoundChange condition c (scope.checked labels c) := by
  obtain ⟨n, constants, hcondition, hname, hlabels⟩ := h
  refine .inr ⟨n, constants, hcondition, hname, ?_, ?_⟩
  · rw [checked, if_pos hdialect]
  · rw [checked, if_pos hdialect, ← hlabels]

/-- What is checked is sound only if the condition says the labels. -/
theorem saysLabels_of_soundChange (hdialect : scope.dialect = .sqlite) {labels : List String}
    {c : Column} (hc : c.dataType ≠ inlineEnumType)
    (h : SoundChange condition c (scope.checked labels c)) :
    SaysLabels condition c.name labels := by
  rw [checked, if_pos hdialect] at h
  rcases h with ⟨htype, -⟩ | ⟨n, constants, hcondition, hname, -, hlabels⟩
  · exact absurd htype.symm hc
  · exact ⟨n, constants, hcondition, hname, Option.some.inj hlabels⟩

/-- The text of a check of a column is that of a check of its table without a name. -/
theorem render_check (condition : Expr) (enforced : Option Bool) :
    (ColumnOption.check condition enforced).render =
      (TableConstraint.check none condition enforced).render := by
  simp [ColumnOption.render, TableConstraint.render, renderConstraintName]

/-- A check of a table changes the first column that its text names, if it reads as a list. -/
theorem applyConstraint_check (t : Table) :
    scope.applyConstraint t (.check name condition enforced) =
      match readCheck? (TableConstraint.check name condition enforced).render with
      | some (column, labels) => t.updateColumn column (scope.checked labels)
      | none => t :=
  rfl

/-- A check of a column changes it as its text says, or sets no more than that it counts on. -/
theorem soundChange_applyOption (hdialect : scope.dialect = .sqlite) (c : Column)
    (h : ∀ labels,
      readCheck? (ColumnOption.check condition enforced).render = some (c.name, labels) →
        SaysLabels condition c.name labels) :
    SoundChange condition c (scope.applyOption c (.check condition enforced)) := by
  unfold applyOption
  dsimp only
  split
  · exact .inl ⟨rfl, rfl⟩
  · split
    · exact .inl ⟨rfl, rfl⟩
    · split
      · next name labels hread =>
        split
        · next hname =>
          rw [hname] at hread
          exact soundChange_checked hdialect (h labels hread)
        · exact .refl condition c
      · exact .refl condition c

/-- Changing the columns of a name relates each column to itself or to what the change makes of it.
-/
theorem forall₂_changeColumn {R : Column → Column → Prop} (hrefl : ∀ c, R c c) {column : String}
    {f : Column → Column} (hf : ∀ c, c.name = column → R c (f c)) (cs : List Column) :
    List.Forall₂ R cs (changeColumn column f cs) := by
  induction cs with
  | nil => exact .nil
  | cons c cs ih =>
    rw [changeColumn]
    split
    · next hc => exact .cons (hf c hc) (List.forall₂_same.mpr fun c _ => hrefl c)
    · exact .cons (hrefl c) ih

/-- A check of a table is sound exactly when what is read off its text is what it says. -/
theorem soundConstraint_iff :
    SoundConstraint name condition enforced ↔
      ∀ column labels, readCheck? (TableConstraint.check name condition enforced).render =
        some (column, labels) → SaysLabels condition column labels := by
  constructor
  · intro h column labels hread
    let c : Column := { name := column, dataType := "" }
    have hsound := h { dialect := .sqlite, defaultSchema := none } rfl
      { schema := none, name := "", columns := [c] }
    rw [applyConstraint_check, hread] at hsound
    dsimp only at hsound
    rw [Table.updateColumn_eq, changeColumn, if_pos rfl] at hsound
    cases hsound with
    | cons hsound _ =>
      have htype : c.dataType ≠ inlineEnumType := show "" ≠ inlineEnumType by decide
      exact saysLabels_of_soundChange rfl htype hsound
  · intro h scope hdialect t
    rw [applyConstraint_check]
    split
    · next column labels hread =>
      rw [Table.updateColumn_eq]
      refine forall₂_changeColumn (SoundChange.refl condition) (fun c hc => ?_) t.columns
      exact soundChange_checked hdialect (hc ▸ h column labels hread)
    · exact List.forall₂_same.mpr fun c _ => .refl condition c

end Scope

/-! ## Sound conditions -/

/-- All checks of a condition are sound, of a column and of a table under any name without blanks.
-/
def SoundCheck (condition : Expr) : Prop :=
  (∀ enforced, SoundOption condition enforced) ∧
    ∀ name enforced, (∀ n ∈ name, IsUnbroken n) → SoundConstraint name condition enforced

/-- The checks of a condition are sound exactly when, if the condition is the text of a list, it
says what is read as the labels. -/
theorem soundCheck_iff (condition : Expr) :
    SoundCheck condition ↔
      ∀ word body, ListText condition.render.toList word body →
        SaysLabels condition (String.ofList word) (labelsOf body) := by
  constructor
  · rintro ⟨-, h⟩ word body hlist
    have hsound := Scope.soundConstraint_iff.mp (h none none (by simp))
    exact hsound _ _ ((readCheck?_render_eq_some_iff condition none (by simp)).mpr
      ⟨rfl, word, body, hlist, rfl, rfl⟩)
  · intro h
    have hread (name : Option Name) (enforced : Option Bool) (hname : ∀ n ∈ name, IsUnbroken n)
        (column : String) (labels : List String)
        (hread : readCheck? (TableConstraint.check name condition enforced).render =
          some (column, labels)) : SaysLabels condition column labels := by
      obtain ⟨-, word, body, hlist, rfl, rfl⟩ :=
        (readCheck?_render_eq_some_iff condition enforced hname).mp hread
      exact h word body hlist
    refine ⟨fun enforced scope hdialect c => ?_, fun name enforced hname => ?_⟩
    · refine Scope.soundChange_applyOption hdialect c fun labels hlabels => ?_
      rw [Scope.render_check] at hlabels
      exact hread none enforced (by simp) c.name labels hlabels
    · exact Scope.soundConstraint_iff.mpr (hread name enforced hname)

/-- The condition that a column is one of some values between single quotes. -/
def valueList (n : Name) (values : List String) : Expr :=
  stringList n (values.map fun v => (.single, v))

/-- Values between single quotes are read as they are, if the quotes in them stand apart. -/
theorem labelsOf_valueList {values : List String} (h : ∀ v ∈ values, QuotesApart v.toList) :
    labelsOf (commas ((values.map fun v => (StringMark.single, v)).map fun c =>
      renderString c.1 c.2)).toList = values := by
  rw [List.map_map]
  exact labelsOf_quoted h

/-- A list of values is the text of this list only. -/
theorem eq_of_listText_valueList {n : Name} {values : List String} (hn : IsWordName n)
    (hvalues : ∀ v ∈ values, QuotesApart v.toList) {word body : List Char}
    (h : ListText (valueList n values).render.toList word body) :
    word = n.text.toList ∧ labelsOf body = values := by
  have hlist := listText_stringList hn (values.map fun v => (.single, v))
  have hsame := (readList?_eq_some_iff.mpr hlist).symm.trans (readList?_eq_some_iff.mpr h)
  obtain ⟨rfl, rfl⟩ := Prod.mk.inj (Option.some.inj hsame)
  exact ⟨rfl, labelsOf_valueList hvalues⟩

/-- **When checks are sound.** In SQLite the checks of a condition, of columns and of tables, with
or without a name, are sound exactly when the condition is not the text of a list or says what is
read as the labels. Under any name, also one with blanks, a check of a table is sound exactly when
what is read off its text is what the condition says. The checks that a column is one of some values
are sound where the column is one word and the quotes in the values stand apart, and a check of a
table makes the column an enum of these values. -/
theorem check_spec (condition : Expr) :
    (SoundCheck condition ↔
      ∀ word body, ListText condition.render.toList word body →
        SaysLabels condition (String.ofList word) (labelsOf body)) ∧
    (∀ name enforced, SoundConstraint name condition enforced ↔
      ∀ column labels, readCheck? (TableConstraint.check name condition enforced).render =
        some (column, labels) → SaysLabels condition column labels) ∧
    ∀ n values, condition = valueList n values → IsWordName n →
      (∀ v ∈ values, QuotesApart v.toList) →
        SoundCheck condition ∧
        ∀ (scope : Scope) t name, (∀ n ∈ name, IsUnbroken n) →
          scope.applyConstraint t (.check name condition none) =
            t.updateColumn n.text (scope.checked values) := by
  refine ⟨soundCheck_iff condition, fun _ _ => Scope.soundConstraint_iff, ?_⟩
  rintro n values rfl hn hvalues
  refine ⟨(soundCheck_iff _).mpr fun word body hlist => ?_, fun scope t name hname => ?_⟩
  · obtain ⟨rfl, hlabels⟩ := eq_of_listText_valueList hn hvalues hlist
    refine ⟨n, _, rfl, String.ofList_toList.symm, ?_⟩
    simp [hlabels, Function.comp_def]
  · have hread := (readCheck?_render_eq_some_iff (valueList n values) none hname).mpr
      ⟨rfl, _, _, listText_stringList hn _, String.ofList_toList.symm, rfl⟩
    rw [Scope.applyConstraint_check, hread, labelsOf_valueList hvalues]

/-- A status that is one of two values makes the column an enum of them. -/
theorem check_spec_of_status :
    let status : Name := { text := "status" }
    SoundCheck (valueList status ["open", "it's closed"]) ∧
      ∀ (scope : Scope) t, scope.applyConstraint t
          (.check none (valueList status ["open", "it's closed"]) none) =
        t.updateColumn "status" (scope.checked ["open", "it's closed"]) := by
  intro status
  obtain ⟨-, -, hvalues⟩ := check_spec (valueList status ["open", "it's closed"])
  have htext : status.text.toList = ['s', 't', 'a', 't', 'u', 's'] := by simp [status]
  have hword : IsWordName status := by
    refine ⟨by simp [htext], List.all_eq_true.mp ?_, .inl rfl⟩
    rw [htext]
    decide +kernel
  obtain ⟨hsound, heffect⟩ := hvalues status ["open", "it's closed"] rfl hword
    (by simp [QuotesApart])
  exact ⟨hsound, fun scope t => heffect scope t none (by simp)⟩

/-- A condition that is one of two lists is taken for a list of both. -/
theorem not_soundConstraint_of_or :
    let condition := Expr.binary (valueList { text := "a" } ["x"]) "OR"
      (valueList { text := "b" } ["y"])
    let t : Table :=
      { schema := none, name := "t"
        columns := [Column.ofType "a" "text", Column.ofType "b" "text"] }
    (∀ n constants, condition ≠ stringList n constants) ∧
      (({ dialect := .sqlite, defaultSchema := none } : Scope).applyConstraint t
        (.check none condition none)).columns =
          [{ name := "a", dataType := "enum", enumValues := some ["x", "y"] },
            Column.ofType "b" "text"] ∧
      ¬SoundConstraint none condition none := by
  intro condition t
  have hother (n : Name) (constants : List (StringMark × String)) :
      condition ≠ stringList n constants := fun h => Expr.noConfusion h
  have hrender : (TableConstraint.check none condition none).render =
      "CHECK (a IN ('x') OR b IN ('y'))" := by decide +kernel
  have hread : readCheck? (TableConstraint.check none condition none).render =
      some ("a", ["x", "y"]) := by
    rw [hrender]
    decide +kernel
  have hsorted : Enums.sorted ["x", "y"] = ["x", "y"] :=
    List.mergeSort_of_pairwise (by decide +kernel)
  have hchecked : ({ dialect := .sqlite, defaultSchema := none } : Scope).checked ["x", "y"] =
      fun c => { c with dataType := inlineEnumType, enumValues := some ["x", "y"] } := by
    funext c
    rw [Scope.checked, if_pos rfl, hsorted]
  refine ⟨hother, ?_, fun hsound => ?_⟩
  · rw [Scope.applyConstraint_check, hread]
    simp only [hchecked]
    decide +kernel
  · obtain ⟨n, constants, hlist, -⟩ := Scope.soundConstraint_iff.mp hsound _ _ hread
    exact hother n constants hlist

end TableTypes
