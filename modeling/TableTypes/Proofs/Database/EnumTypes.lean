import Mathlib.Data.List.Induction
import Mathlib.Data.String.Basic
import TableTypes.Proofs.Database.Introspected
import TableTypes.Proofs.Sql.StringLists

/-!
# The labels of enums

The labels of an enum are written between single quotes, with the quotes in them doubled. They are
read back whatever characters they are made of. Main statement: of the enums that some statements
declare under one key the last one counts; its labels are kept in their order without repetitions,
and shown in ascending order.
-/

namespace TableTypes

/-! ## Labels without repetitions -/

/-- Labels that are found already are passed over. -/
theorem foldl_distinct_eq (labels found : List String) :
    labels.foldl (fun found label => if found.contains label then found else found ++ [label])
      found = found ++ (labels.filter fun label => !found.contains label).eraseDups := by
  induction labels generalizing found with
  | nil => simp
  | cons label labels ih =>
    rw [List.foldl_cons, ih]
    by_cases h : label ∈ found
    · simp [h]
    · have hfilter : (labels.filter fun l => !found.contains l).filter (fun l => !l == label) =
          labels.filter fun l => !(found ++ [label]).contains l := by
        rw [List.filter_filter]
        refine List.filter_congr fun l _ => ?_
        by_cases hl : l = label <;> simp [hl]
      rw [if_neg (by simpa using h), List.filter_cons_of_pos (by simpa using h),
        List.eraseDups_cons, hfilter, List.append_assoc, List.singleton_append]

/-- Of labels that are alike the first one is kept. -/
theorem Scope.distinctLabels_eq (labels : List String) :
    Scope.distinctLabels labels = labels.eraseDups := by
  refine (foldl_distinct_eq labels []).trans ?_
  simp

/-- Without repetitions each label stands once. -/
theorem nodup_eraseDups (labels : List String) : labels.eraseDups.Nodup := by
  match labels with
  | [] => simp
  | label :: rest =>
    rw [List.eraseDups_cons, List.nodup_cons]
    exact ⟨by simp, nodup_eraseDups _⟩
termination_by labels.length
decreasing_by exact Nat.lt_succ_of_le (List.length_filter_le ..)

namespace Enums

/-- Sorted labels are the same ones. -/
theorem mem_sorted {labels : List String} {label : String} :
    label ∈ sorted labels ↔ label ∈ labels :=
  List.mem_mergeSort

/-- Labels without repetitions are shown in strictly ascending order. -/
theorem pairwise_sorted {labels : List String} (h : labels.Nodup) :
    (sorted labels).Pairwise (· < ·) := by
  have hle : (sorted labels).Pairwise (fun a b => decide (a ≤ b) = true) := by
    refine List.pairwise_mergeSort (fun a b c hab hbc => ?_) (fun a b => ?_) labels
    · simp only [decide_eq_true_eq] at *
      exact hab.trans hbc
    · simpa using le_total a b
  have hne : (sorted labels).Pairwise (· ≠ ·) := (List.mergeSort_perm labels _).nodup_iff.mpr h
  refine (hle.and hne).imp fun {a b} hab => ?_
  exact lt_of_le_of_ne (decide_eq_true_eq.mp hab.1) hab.2

/-- Of several enums of one name in any letter case the last one counts. -/
theorem get?_foldl_set (pairs : List (String × List String)) (key : String) :
    Dictionary.get? (pairs.foldl (fun (enums : Enums) (name, labels) => enums.set name labels) [])
      key = (pairs.reverse.find? fun e => Unicode.lowercase e.1 = key).map (·.2) := by
  induction pairs using List.reverseRec with
  | nil => rfl
  | append_singleton pairs last ih =>
    rw [List.foldl_append, List.foldl_cons, List.foldl_nil, List.reverse_append,
      List.reverse_singleton, List.singleton_append, List.find?_cons]
    refine (Dictionary.get?_put _ _ _ _).trans ?_
    by_cases h : key = Unicode.lowercase last.1
    · simp [h]
    · simp [h, Ne.symm h, ih]

end Enums

/-! ## Statements that declare enums -/

namespace Sql.Statement

/-- Whether a statement declares an enum. -/
def isEnum : Statement → Bool
  | .type _ (.enum _) => true
  | _ => false

/-- A statement that declares an enum of a name with some labels, which stand between single quotes
and have the quotes in them doubled. -/
def DeclaresEnum (st : Statement) (name : String) (labels : List String) : Prop :=
  ∃ path written, st = .type path (.enum written) ∧ renderPath path = name ∧
    written.map Name.render = labels.map constantText

/-- A statement that declares no type whose name is empty or has blanks. -/
def NamesTypes (st : Statement) : Prop :=
  ∀ path body, st = .type path body →
    renderPath path ≠ "" ∧ ∀ c ∈ (renderPath path).toList, Unicode.isBlank c = false

/-- A type under a name without blanks names its type. -/
theorem namesTypes_type {path : Path} (body : TypeBody) (hne : renderPath path ≠ "")
    (hblank : ((renderPath path).toList.all fun c => !Unicode.isBlank c) = true) :
    NamesTypes (.type path body) := by
  rintro _ _ ⟨⟩
  exact ⟨hne, by simpa using hblank⟩

end Sql.Statement

namespace Scope

variable {scope : Scope}

/-- A declared enum has its labels under its qualified name, each of them once. -/
theorem enum?_of_declaresEnum {st : Sql.Statement} {name : String} {labels : List String}
    (hst : st.DeclaresEnum name labels) (hname : st.NamesTypes) :
    scope.enum? st = some ((scope.qualified name).text, labels.eraseDups) := by
  obtain ⟨path, written, rfl, rfl, hlabels⟩ := hst
  obtain ⟨hne, hblank⟩ := hname path _ rfl
  rw [enum?_type written hne hblank, enumLabels, hlabels, Sql.labelsOf_constantTexts,
    distinctLabels_eq]

/-- A statement declares an enum only if it says so. -/
theorem enum?_eq_none {st : Sql.Statement} (hst : st.isEnum = false) (hname : st.NamesTypes) :
    scope.enum? st = none := by
  unfold enum?
  split
  · next path body =>
    obtain ⟨hne, hblank⟩ := hname path body rfl
    rw [Sql.readEnum?_eq_none hne hblank, Option.map_none]
    rintro labels rfl
    cases hst
  · rfl

/-- The enums of some statements, each with its labels. -/
theorem filterMap_enum? {statements : List Sql.Statement} {enums : List (String × List String)}
    (hnames : ∀ st ∈ statements, st.NamesTypes)
    (henums : List.Forall₂ (fun st e => st.DeclaresEnum e.1 e.2)
      (statements.filter (·.isEnum)) enums) :
    statements.filterMap scope.enum? =
      enums.map fun e => ((scope.qualified e.1).text, e.2.eraseDups) := by
  induction statements generalizing enums with
  | nil =>
    cases henums
    rfl
  | cons st statements ih =>
    obtain ⟨hname, hnames⟩ := List.forall_mem_cons.mp hnames
    cases hst : st.isEnum with
    | false =>
      rw [List.filter_cons_of_neg (by simp [hst])] at henums
      rw [List.filterMap_cons_none (enum?_eq_none hst hname), ih hnames henums]
    | true =>
      rw [List.filter_cons_of_pos hst] at henums
      cases henums with
      | cons hfirst hrest =>
        rw [List.filterMap_cons_some (enum?_of_declaresEnum hfirst hname), ih hnames hrest,
          List.map_cons]

/-- The labels of the last one of some enums that has a key. -/
def lastLabels? (scope : Scope) (enums : List (String × List String)) (key : String) :
    Option (List String) :=
  (enums.reverse.find? fun e => Unicode.lowercase (scope.qualified e.1).text = key).map (·.2)

end Scope

namespace Database

variable {dialect : Dialect} {defaultSchema : Option String} {statements : List Sql.Statement}
  {enums : List (String × List String)}

/-- The enums of a database are the last ones of their keys. -/
theorem get?_enums_ofStatements (hnames : ∀ st ∈ statements, st.NamesTypes)
    (henums : List.Forall₂ (fun st e => st.DeclaresEnum e.1 e.2)
      (statements.filter (·.isEnum)) enums) (key : String) :
    (ofStatements dialect defaultSchema statements).enums.get? key =
      (({ dialect, defaultSchema } : Scope).lastLabels? enums key).map List.eraseDups := by
  let scope : Scope := { dialect, defaultSchema }
  have hfold : (ofStatements dialect defaultSchema statements).enums =
      (statements.filterMap scope.enum?).foldl
        (fun (enums : Enums) (name, labels) => enums.set name labels) [] := rfl
  rw [hfold, Enums.get?_foldl_set, Scope.filterMap_enum? hnames henums, ← List.map_reverse,
    List.find?_map, Option.map_map, Scope.lastLabels?, Option.map_map]
  simp only [Function.comp_def, scope]

/-- The labels of the last enum of a key are kept without repetitions, and shown under the key in
any letter case in strictly ascending order. Labels are told from the text of a list whatever
characters they are made of. -/
theorem enums_keep_labels (hnames : ∀ st ∈ statements, st.NamesTypes)
    (henums : List.Forall₂ (fun st e => st.DeclaresEnum e.1 e.2)
      (statements.filter (·.isEnum)) enums) :
    let scope : Scope := { dialect, defaultSchema }
    let db := ofStatements dialect defaultSchema statements
    (∀ key, db.enums.get? key = (scope.lastLabels? enums key).map List.eraseDups) ∧
      (∀ key, match scope.lastLabels? enums (Unicode.lowercase key) with
        | none => db.enums.labels? key = none
        | some labels => ∃ shown, db.enums.labels? key = some shown ∧
            shown.Pairwise (· < ·) ∧ ∀ label, label ∈ shown ↔ label ∈ labels) ∧
      ∀ labels, Sql.labelsOf (Sql.commas (labels.map Sql.constantText)).toList = labels := by
  intro scope db
  refine ⟨get?_enums_ofStatements hnames henums, fun key => ?_, Sql.labelsOf_constantTexts⟩
  have hlabels : db.enums.labels? key =
      ((scope.lastLabels? enums (Unicode.lowercase key)).map List.eraseDups).map Enums.sorted := by
    rw [Enums.labels?, get?_enums_ofStatements hnames henums]
  cases hlast : scope.lastLabels? enums (Unicode.lowercase key) with
  | none => simpa [hlast] using hlabels
  | some labels =>
    refine ⟨Enums.sorted labels.eraseDups, by simpa [hlast] using hlabels, ?_, fun label => ?_⟩
    · exact Enums.pairwise_sorted (nodup_eraseDups labels)
    · rw [Enums.mem_sorted, List.mem_eraseDups]

/-- An enum that is declared again in another letter case has the labels of the second time, among
them the empty one and one that is made of a quote, a comma and a parenthesis. -/
theorem labels_of_repeated_enum :
    let label (text : String) : Sql.Name := { text, quote := some '\'' }
    let statements : List Sql.Statement := [
      .type [{ text := "App", quote := some '"' }, { text := "Mood" }] (.enum [label "x"]),
      .type [{ text := "pair" }] (.composite []),
      .type [{ text := "app" }, { text := "mood" }]
        (.enum [label "it's", label "", label "', (", label "it's"])]
    let db := ofStatements .postgres none statements
    db.enums.get? "app.mood" = some ["it's", "", "', ("] ∧
      ∃ shown, db.enums.labels? "APP.Mood" = some shown ∧ shown.Pairwise (· < ·) ∧
        ∀ label, label ∈ shown ↔ label ∈ ["it's", "", "', (", "it's"] := by
  intro label statements db
  let enums := [("\"App\".Mood", ["x"]), ("app.mood", ["it's", "", "', (", "it's"])]
  have hnames : ∀ st ∈ statements, st.NamesTypes := by
    simp only [statements, List.forall_mem_cons]
    refine ⟨?_, ?_, ?_, List.forall_mem_nil _⟩ <;>
      exact Sql.Statement.namesTypes_type _ (by decide) (by decide)
  have hfirst : Sql.Statement.DeclaresEnum statements[0] "\"App\".Mood" ["x"] :=
    ⟨_, _, rfl, by decide, by decide⟩
  have hlast : Sql.Statement.DeclaresEnum statements[2] "app.mood"
      ["it's", "", "', (", "it's"] := ⟨_, _, rfl, by decide, by decide⟩
  have henums : List.Forall₂ (fun st e => Sql.Statement.DeclaresEnum st e.1 e.2)
      (statements.filter (·.isEnum)) enums := .cons hfirst (.cons hlast .nil)
  obtain ⟨hkept, hshown, -⟩ :=
    @enums_keep_labels .postgres none statements enums hnames henums
  have hlabels : ({ dialect := .postgres, defaultSchema := none } : Scope).lastLabels? enums
      "app.mood" = some ["it's", "", "', (", "it's"] := by decide
  refine ⟨(hkept _).trans (by rw [hlabels]; decide), ?_⟩
  have hkey : Unicode.lowercase "APP.Mood" = "app.mood" := by decide
  have hmood := hshown "APP.Mood"
  rwa [hkey, hlabels] at hmood

end Database

end TableTypes
