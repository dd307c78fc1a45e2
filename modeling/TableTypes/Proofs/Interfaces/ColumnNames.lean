import TableTypes.Proofs.Interfaces.Renaming
import TableTypes.Interfaces.ColumnType

/-!
# The names in the type of a column

What a column's type is made of: alternatives that come from one of six places, in unions, arrays
and the helper types that wrap them. The lemmas hold both for the names that a type refers to and
for those that occur in it.
-/

namespace TableTypes

open TypeScript
open TypeScript.TypeExpr (named unionOf)

/-- A way to list names of type expressions that goes through unions, arrays and generics. -/
structure ListsNames (f : TypeExpr → List String) : Prop where
  name : ∀ n isTable, f (.name n isTable) = [n]
  literal : ∀ value, f (.literal value) = []
  array : ∀ element, f (.array element) = f element
  union : ∀ members, f (.union members) = members.flatMap f
  generic : ∀ head args, f (.generic head args) = head :: args.flatMap f

/-- The references of a type are listed part by part. -/
theorem listsNames_references : ListsNames TypeExpr.references where
  name _ _ := rfl
  literal _ := rfl
  array _ := rfl
  union members := by rw [TypeExpr.references, referencesAll_eq_flatMap]
  generic head args := by rw [TypeExpr.references, referencesAll_eq_flatMap]

/-- The names that occur in a type are listed part by part. -/
theorem listsNames_occurring : ListsNames TypeExpr.occurring where
  name _ _ := rfl
  literal _ := rfl
  array _ := rfl
  union members := by rw [TypeExpr.occurring, occurringAll_eq_flatMap]
  generic head args := by rw [TypeExpr.occurring, occurringAll_eq_flatMap]

namespace ListsNames

variable {f : TypeExpr → List String} {n : String}

/-- A union has the names of its members, and that of the type without values if there are none. -/
theorem mem_unionOf (hf : ListsNames f) {es : List TypeExpr} :
    n ∈ f (unionOf es) ↔ (∃ e ∈ es, n ∈ f e) ∨ es = [] ∧ n = "never" := by
  rcases es with _ | ⟨e, _ | ⟨e', rest⟩⟩
  · simp [unionOf, named, hf.name]
  · simp [unionOf]
  · simp [unionOf, hf.union]

/-- The names that wrapping a type adds. -/
def wrapperNames : List String :=
  ["never", "null", "ArrayType", "Generated"]

/-- A name in a union belongs to a wrapper or to one of the alternatives. -/
theorem mem_unionOf_imp (hf : ListsNames f) {es : List TypeExpr} (hn : n ∈ f (unionOf es)) :
    n ∈ wrapperNames ∨ ∃ e ∈ es, n ∈ f e := by
  rcases hf.mem_unionOf.mp hn with h | ⟨-, rfl⟩
  · exact .inr h
  · exact .inl (by decide)

/-- A name in an array belongs to a wrapper or to one of the elements. -/
theorem mem_arrayOf_imp (hf : ListsNames f) {es : List TypeExpr} (hn : n ∈ f (Context.arrayOf es)) :
    n ∈ wrapperNames ∨ ∃ e ∈ es, n ∈ f e := by
  unfold Context.arrayOf at hn
  dsimp only at hn
  split at hn
  · rw [hf.array] at hn
    exact hf.mem_unionOf_imp hn
  · rw [hf.generic, List.mem_cons, List.flatMap_singleton] at hn
    rcases hn with rfl | hn
    · exact .inl (by decide)
    · exact hf.mem_unionOf_imp hn

/-- The names in the elements are in the array. -/
theorem mem_arrayOf (hf : ListsNames f) {es : List TypeExpr} {e : TypeExpr} (he : e ∈ es)
    (hn : n ∈ f e) : n ∈ f (Context.arrayOf es) := by
  have hunion : n ∈ f (unionOf es) := hf.mem_unionOf.mpr (.inl ⟨e, he, hn⟩)
  unfold Context.arrayOf
  dsimp only
  split
  · rwa [hf.array]
  · rw [hf.generic, List.flatMap_singleton]
    exact List.mem_cons_of_mem _ hunion

/-- The names of an array column come from the alternatives of its elements. -/
theorem mem_elements_imp (hf : ListsNames f) {c : Column} {es : List TypeExpr} {e : TypeExpr}
    (he : e ∈ if c.isArray then [Context.arrayOf es] else es) (hn : n ∈ f e) :
    n ∈ wrapperNames ∨ ∃ e ∈ es, n ∈ f e := by
  split at he
  · rw [List.mem_singleton.mp he] at hn
    exact hf.mem_arrayOf_imp hn
  · exact .inr ⟨e, he, hn⟩

/-- The names of a nullable column come from its alternatives. -/
theorem mem_nullable_imp (hf : ListsNames f) {c : Column} {es : List TypeExpr}
    (hn : n ∈ f (unionOf (if c.isNullable then es ++ [named "null"] else es))) :
    n ∈ wrapperNames ∨ ∃ e ∈ es, n ∈ f e := by
  rcases hf.mem_unionOf_imp hn with h | ⟨e, he, hn⟩
  · exact .inl h
  · split at he
    · rcases List.mem_append.mp he with he | he
      · exact .inr ⟨e, he, hn⟩
      · rw [List.mem_singleton.mp he, hf.name, List.mem_singleton] at hn
        exact .inl (hn ▸ by decide)
    · exact .inr ⟨e, he, hn⟩

/-- The type of a column has the names of its alternatives, and otherwise names that wrapping
adds. -/
theorem mem_wrapType_imp (hf : ListsNames f) {c : Column} {es : List TypeExpr}
    (hn : n ∈ f (Context.wrapType c es)) : n ∈ wrapperNames ∨ ∃ e ∈ es, n ∈ f e := by
  have hunion {type : TypeExpr}
      (hn : n ∈ f (if c.hasDefault || c.isAutoIncrementing then .generic "Generated" [type]
        else type)) : n ∈ wrapperNames ∨ n ∈ f type := by
    split at hn
    · rw [hf.generic, List.mem_cons, List.flatMap_singleton] at hn
      rcases hn with rfl | hn
      · exact .inl (by decide)
      · exact .inr hn
    · exact .inr hn
  rcases hunion hn with h | hn
  · exact .inl h
  · rcases hf.mem_nullable_imp hn with h | ⟨e, he, hn⟩
    · exact .inl h
    · exact hf.mem_elements_imp he hn

/-- However a column wraps its alternatives, their names stay. -/
theorem mem_wrapType (hf : ListsNames f) (c : Column) {es : List TypeExpr} {e : TypeExpr}
    (he : e ∈ es) (hn : n ∈ f e) : n ∈ f (Context.wrapType c es) := by
  obtain ⟨e', he', hn'⟩ : ∃ e' ∈ (if c.isArray then [Context.arrayOf es] else es), n ∈ f e' := by
    split
    · exact ⟨_, List.mem_singleton_self _, hf.mem_arrayOf he hn⟩
    · exact ⟨e, he, hn⟩
  have hunion : n ∈ f (unionOf (if c.isNullable then
      (if c.isArray then [Context.arrayOf es] else es) ++ [named "null"]
      else if c.isArray then [Context.arrayOf es] else es)) := by
    refine hf.mem_unionOf.mpr (.inl ⟨e', ?_, hn'⟩)
    split
    · exact List.mem_append_left _ he'
    · exact he'
  unfold Context.wrapType
  dsimp only
  split
  · rw [hf.generic, List.flatMap_singleton]
    exact List.mem_cons_of_mem _ hunion
  · exact hunion

end ListsNames

namespace Context

variable {ctx : Context}

/-- Where an alternative of a column's type comes from. -/
inductive Alternative (ctx : Context) (c : Column) : TypeExpr → Prop where
  | mapped {code : String} : ctx.mappedType? c (Unicode.lowercase c.dataType) = some code →
      Alternative ctx c (.raw code)
  | scalar {e : TypeExpr} : ctx.profile.scalars.get? (Unicode.lowercase c.dataType) = some e →
      Alternative ctx c e
  | enum : Alternative ctx c
      (named (enumSymbolId (ctx.typeSymbolId c (Unicode.lowercase c.dataType))))
  | symbol : Alternative ctx c (named (ctx.typeSymbolId c (Unicode.lowercase c.dataType)))
  | label (value : String) : Alternative ctx c (TypeExpr.text value)
  | unknown : Alternative ctx c ctx.profile.defaultScalar

/-- The base types of a column are alternatives of it. -/
theorem alternative_of_mem_baseTypes {symbols : Symbols} {c : Column} {e : TypeExpr}
    (he : e ∈ (ctx.baseTypes symbols c).1) : ctx.Alternative c e := by
  unfold baseTypes at he
  dsimp only at he
  split at he
  · next hmapped =>
    rw [List.mem_singleton.mp he]
    exact .mapped hmapped
  · split at he
    · next hscalar =>
      rw [List.mem_singleton.mp he]
      exact .scalar hscalar
    · split at he
      · rw [List.mem_singleton.mp he]
        exact .enum
      · split at he
        · rw [List.mem_singleton.mp he]
          exact .symbol
        · split at he
          · obtain ⟨value, -, rfl⟩ := List.mem_map.mp he
            exact .label value
          · rw [List.mem_singleton.mp he]
            exact .unknown

/-- The type of a column that the user has given none has the names of its alternatives, and
otherwise names that wrapping adds. -/
theorem mem_columnType_imp {f : TypeExpr → List String} (hf : ListsNames f) {t : Table} {c : Column}
    (hoverride : ctx.findOverride? t c = none) {symbols : Symbols} {n : String}
    (hn : n ∈ f (ctx.columnType symbols t c).1) :
    n ∈ ListsNames.wrapperNames ∨ ∃ e, ctx.Alternative c e ∧ n ∈ f e := by
  unfold columnType at hn
  rw [hoverride] at hn
  rcases hf.mem_wrapType_imp hn with h | ⟨e, he, hn⟩
  · exact .inl h
  · exact .inr ⟨e, alternative_of_mem_baseTypes he, hn⟩

/-- The type of a column of a scalar data type has the names of the scalar. -/
theorem mem_columnType_of_scalar {f : TypeExpr → List String} (hf : ListsNames f) {t : Table}
    {c : Column} (hoverride : ctx.findOverride? t c = none)
    (hmapped : ctx.mappedType? c (Unicode.lowercase c.dataType) = none) {e : TypeExpr}
    (hscalar : ctx.profile.scalars.get? (Unicode.lowercase c.dataType) = some e)
    (symbols : Symbols) {n : String} (hn : n ∈ f e) : n ∈ f (ctx.columnType symbols t c).1 := by
  simp only [columnType, hoverride, inferredType, baseTypes, hmapped, hscalar]
  exact hf.mem_wrapType c (List.mem_singleton_self e) hn

end Context

end TableTypes
