import TableTypes.Generation
import TableTypes.Proofs.Database.TableNames

/-!
# The order of the tables

Symbols are registered table by table, and the first one to ask for a name gets it, so a file
depends on the order in which its tables are taken. This order is the one by schema and name. Main
statement: where no two tables share both, it makes no difference in which order the tables are
given.
-/

namespace TableTypes

/-! ## The order by schema and name -/

/-- A schema comes before another one; no schema comes before all of them. -/
def schemaBefore : Option String → Option String → Prop
  | none, some _ => True
  | some s, some t => s < t
  | _, none => False

/-- No schema comes before itself. -/
theorem not_schemaBefore_self (s : Option String) : ¬schemaBefore s s := by
  cases s with
  | none => exact id
  | some s => exact String.lt_irrefl s

/-- What comes before a schema comes before those behind it. -/
theorem schemaBefore_trans {s t u : Option String} (hst : schemaBefore s t)
    (htu : schemaBefore t u) : schemaBefore s u := by
  cases s <;> cases t <;> cases u <;> simp_all only [schemaBefore]
  exact String.lt_trans hst htu

/-- Of two different schemas one comes before the other. -/
theorem schemaBefore_trichotomy (s t : Option String) :
    s = t ∨ schemaBefore s t ∨ schemaBefore t s := by
  cases s with
  | none => cases t <;> simp [schemaBefore]
  | some s =>
    cases t with
    | none => simp [schemaBefore]
    | some t =>
      rcases Std.lt_trichotomy s t with h | h | h
      · exact .inr (.inl h)
      · exact .inl (congrArg some h)
      · exact .inr (.inr h)

/-- A table comes no later than another when its schema comes before, or its name comes no later in
the same schema. -/
theorem Table.precedes_iff {a b : Table} :
    a.precedes b = true ↔
      schemaBefore a.schema b.schema ∨ a.schema = b.schema ∧ a.name ≤ b.name := by
  unfold precedes
  cases a.schema with
  | none => cases b.schema <;> simp [schemaBefore]
  | some s =>
    cases b.schema with
    | none => simp [schemaBefore]
    | some t =>
      by_cases hst : s = t
      · subst hst
        simp [not_schemaBefore_self]
      · have hle : s ≤ t ↔ s < t :=
          ⟨fun h => Std.lt_of_le_of_ne h hst, fun h => Std.le_of_lt h⟩
        simp [schemaBefore, hst, hle]

/-- Of two tables one comes no later than the other. -/
theorem Table.precedes_total (a b : Table) : (a.precedes b || b.precedes a) = true := by
  rw [Bool.or_eq_true, precedes_iff, precedes_iff]
  rcases schemaBefore_trichotomy a.schema b.schema with h | h | h
  · rcases String.le_total a.name b.name with hname | hname
    · exact .inl (.inr ⟨h, hname⟩)
    · exact .inr (.inr ⟨h.symm, hname⟩)
  · exact .inl (.inl h)
  · exact .inr (.inl h)

/-- What precedes a table precedes those that it precedes. -/
theorem Table.precedes_trans {a b c : Table} (hab : a.precedes b = true)
    (hbc : b.precedes c = true) : a.precedes c = true := by
  rw [precedes_iff] at hab hbc ⊢
  rcases hab with hab | ⟨hab, hname⟩
  · rcases hbc with hbc | ⟨hbc, -⟩
    · exact .inl (schemaBefore_trans hab hbc)
    · exact .inl (hbc ▸ hab)
  · rcases hbc with hbc | ⟨hbc, hname'⟩
    · exact .inl (hab ▸ hbc)
    · exact .inr ⟨hab.trans hbc, String.le_trans hname hname'⟩

/-- Tables that come no later than each other have one schema and one name. -/
theorem Table.key_eq_of_precedes {a b : Table} (hab : a.precedes b = true)
    (hba : b.precedes a = true) : a.key = b.key := by
  rw [precedes_iff] at hab hba
  rcases hab with hab | ⟨hschema, hname⟩
  · rcases hba with hba | ⟨hschema, -⟩
    · exact absurd (schemaBefore_trans hab hba) (not_schemaBefore_self _)
    · exact absurd (hschema ▸ hab) (not_schemaBefore_self _)
  · rcases hba with hba | ⟨-, hname'⟩
    · exact absurd (hschema ▸ hba) (not_schemaBefore_self _)
    · rw [key, key, hschema, String.le_antisymm hname hname']

/-! ## Sorting tables -/

/-- Tables of which no two share schema and name are sorted into one list, in whatever order they
come. -/
theorem mergeSort_precedes_eq_of_perm {tables others : List Table} (hperm : tables.Perm others)
    (hkeys : (tables.map Table.key).Nodup) :
    tables.mergeSort Table.precedes = others.mergeSort Table.precedes := by
  have hsorted (ts : List Table) :
      (ts.mergeSort Table.precedes).Pairwise fun a b => a.precedes b = true := by
    refine List.pairwise_mergeSort ?_ Table.precedes_total ts
    exact fun _ _ _ => Table.precedes_trans
  have hsame : (tables.mergeSort Table.precedes).Perm (others.mergeSort Table.precedes) :=
    (List.mergeSort_perm _ _).trans (hperm.trans (List.mergeSort_perm _ _).symm)
  refine List.Perm.eq_of_pairwise ?_ (hsorted tables) (hsorted others) hsame
  intro a b ha hb hab hba
  have ha' : a ∈ tables := List.mem_mergeSort.mp ha
  have hb' : b ∈ tables := hperm.mem_iff.mpr (List.mem_mergeSort.mp hb)
  exact List.inj_on_of_nodup_map hkeys ha' hb' (Table.key_eq_of_precedes hab hba)

/-! ## The file for the tables -/

/-- Where no two tables share schema and name, the statements and the text of the file are the same
for every order of the tables. -/
theorem moduleStatements_eq_of_perm {tables others : List Table} (hperm : tables.Perm others)
    (hkeys : (tables.map Table.key).Nodup) (enums : Enums) :
    (∀ profile options, moduleStatements profile options { tables, enums } =
      moduleStatements profile options { tables := others, enums }) ∧
    ∀ settings : Settings, settings.fileText { tables, enums } =
      settings.fileText { tables := others, enums } := by
  have hstatements (profile : Profile) (options : Options) :
      moduleStatements profile options { tables, enums } =
        moduleStatements profile options { tables := others, enums } := by
    unfold moduleStatements
    dsimp only
    rw [mergeSort_precedes_eq_of_perm hperm hkeys]
  refine ⟨hstatements, fun settings => ?_⟩
  unfold Settings.fileText
  simp only [hstatements]

/-- Of two tables that ask for one display name, the same one gets it in either order. -/
theorem moduleStatements_of_swapped_tables :
    let first : Table := { schema := none, name := "fooBar", columns := [.ofType "id" "int"] }
    let second : Table := { schema := none, name := "foo_bar", columns := [.ofType "at" "date"] }
    [first, second].Perm [second, first] ∧ ([first, second].map Table.key).Nodup ∧
    moduleStatements .mysql {} { tables := [first, second], enums := [] } =
      moduleStatements .mysql {} { tables := [second, first], enums := [] } := by
  intro first second
  have hperm : [first, second].Perm [second, first] := .swap second first []
  have hkeys : ([first, second].map Table.key).Nodup := by decide
  exact ⟨hperm, hkeys, (moduleStatements_eq_of_perm hperm hkeys []).1 .mysql {}⟩

end TableTypes
