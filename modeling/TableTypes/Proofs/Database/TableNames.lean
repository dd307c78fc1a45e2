import Mathlib.Data.List.Nodup
import TableTypes.Database.Introspect

/-!
# Tables by name

A table is known by its schema and name. Where no two tables share both, looking a table up does not
depend on the order of the tables, and changes of single columns keep tables under their names.
-/

namespace TableTypes

/-- The schema and the name of a table, by which it is known. -/
def Table.key (t : Table) : QualifiedName :=
  { schema := t.schema, name := t.name }

/-- A table is the one of a name exactly when it is known by it. -/
theorem Scope.names_iff {name : QualifiedName} {t : Table} :
    names name t = true ↔ t.key = name := by
  obtain ⟨schema, name⟩ := name
  simp [names, Table.key, and_comm]

/-- The table of a name is the same one in whatever order the tables come. -/
theorem find?_names_eq_of_perm {tables others : List Table} (hperm : tables.Perm others)
    (hkeys : (tables.map Table.key).Nodup) (name : QualifiedName) :
    tables.find? (Scope.names name) = others.find? (Scope.names name) := by
  cases hfound : tables.find? (Scope.names name) with
  | none =>
    rw [List.find?_eq_none] at hfound
    refine (List.find?_eq_none.mpr fun t ht => ?_).symm
    exact hfound t (hperm.mem_iff.mpr ht)
  | some t =>
    have ht := List.mem_of_find?_eq_some hfound
    have hname := List.find?_some hfound
    cases hother : others.find? (Scope.names name) with
    | none => exact absurd hname (List.find?_eq_none.mp hother t (hperm.mem_iff.mp ht))
    | some u =>
      have hu := hperm.mem_iff.mpr (List.mem_of_find?_eq_some hother)
      have hkey : t.key = u.key :=
        (Scope.names_iff.mp hname).trans (Scope.names_iff.mp (List.find?_some hother)).symm
      rw [List.inj_on_of_nodup_map hkeys ht hu hkey]

/-! ## Changes of a column -/

/-- Columns with the first one of a name changed. -/
def changeColumn (name : String) (f : Column → Column) : List Column → List Column
  | [] => []
  | c :: cs => if c.name = name then f c :: cs else c :: changeColumn name f cs

/-- What a change of a column leaves alone is left alone in all columns. -/
theorem map_changeColumn {β : Type} {g : Column → β} {f : Column → Column}
    (hf : ∀ c, g (f c) = g c) (name : String) (cs : List Column) :
    (changeColumn name f cs).map g = cs.map g := by
  induction cs with
  | nil => rfl
  | cons c cs ih =>
    unfold changeColumn
    split
    · rw [List.map_cons, List.map_cons, hf]
    · rw [List.map_cons, List.map_cons, ih]

/-- Where the names of columns are distinct, changing the first column of a name changes each column
of that name. -/
theorem changeColumn_eq_map {cs : List Column} (hnames : (cs.map (·.name)).Nodup) (name : String)
    (f : Column → Column) :
    changeColumn name f cs = cs.map fun c => if c.name = name then f c else c := by
  induction cs with
  | nil => rfl
  | cons c cs ih =>
    obtain ⟨hfirst, hrest⟩ := List.nodup_cons.mp hnames
    rw [changeColumn, List.map_cons, ← ih hrest]
    split
    · next hname =>
      -- no later column has the name of this one
      have hothers : changeColumn name f cs = cs := by
        rw [ih hrest]
        refine (List.map_congr_left fun d hd => if_neg fun hd' => ?_).trans (List.map_id cs)
        exact hfirst (List.mem_map.mpr ⟨d, hd, hd'.trans hname.symm⟩)
      rw [hothers]
    · rfl

/-- A change of a column changes the columns of its table and nothing else. -/
theorem Table.updateColumn_eq (t : Table) (name : String) (f : Column → Column) :
    t.updateColumn name f = { t with columns := changeColumn name f t.columns } := by
  have hcolumns (cs : List Column) :
      ((updateFirst? (fun c : Column => if c.name = name then some (f c) else none) cs).getD cs) =
        changeColumn name f cs := by
    induction cs with
    | nil => rfl
    | cons c cs ih =>
      unfold updateFirst? changeColumn
      by_cases hname : c.name = name
      · simp [hname]
      · rw [← ih]
        cases hrest : updateFirst? (fun c : Column => if c.name = name then some (f c) else none) cs
          <;> simp [hname]
  rw [← hcolumns]
  unfold updateColumn updateColumn?
  cases updateFirst? (fun c : Column => if c.name = name then some (f c) else none) t.columns
    <;> rfl

/-- The name of a table and whether it is a view, which constraints and comments leave alone. -/
def Table.heading (t : Table) : QualifiedName × Bool :=
  (t.key, t.isView)

/-- A change of a column leaves the name of the table alone. -/
@[simp] theorem Table.heading_updateColumn (t : Table) (name : String) (f : Column → Column) :
    (t.updateColumn name f).heading = t.heading := by
  rw [updateColumn_eq]
  rfl

/-- What each step leaves alone, all of them do. -/
theorem foldl_keeps {α β γ : Type} {g : α → γ} {f : α → β → α} (hf : ∀ a b, g (f a b) = g a)
    (steps : List β) (a : α) : g (steps.foldl f a) = g a := by
  induction steps generalizing a with
  | nil => rfl
  | cons b rest ih => exact (ih (f a b)).trans (hf a b)

/-- Steps that each leave the name of a table alone leave it so together. -/
theorem Table.heading_foldl {β : Type} {f : Table → β → Table}
    (hf : ∀ t b, (f t b).heading = t.heading) (steps : List β) (t : Table) :
    (steps.foldl f t).heading = t.heading :=
  foldl_keeps hf steps t

/-- Changes of two columns that leave the names alone can be made in either order. -/
theorem Table.updateColumn_comm {name other : String} (hne : name ≠ other)
    {f g : Column → Column} (hf : ∀ c, (f c).name = c.name) (hg : ∀ c, (g c).name = c.name)
    (t : Table) :
    (t.updateColumn name f).updateColumn other g =
      (t.updateColumn other g).updateColumn name f := by
  have hcolumns (cs : List Column) :
      changeColumn other g (changeColumn name f cs) =
        changeColumn name f (changeColumn other g cs) := by
    induction cs with
    | nil => rfl
    | cons c cs ih =>
      by_cases hname : c.name = name
      · have hother : c.name ≠ other := hname ▸ hne
        simp [changeColumn, hname, hf, hne]
      · by_cases hother : c.name = other
        · simp [changeColumn, hother, hg, Ne.symm hne]
        · simp [changeColumn, hname, hother, ih]
  simp only [updateColumn_eq, hcolumns]

end TableTypes
