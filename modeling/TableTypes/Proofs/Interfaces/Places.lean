import Mathlib.Data.List.Basic
import TableTypes.Proofs.Interfaces.Renaming

/-!
# Places of names and the variables in scope there

A name can stand in a type expression as a type, as the head of a generic, in type text of the user,
or in the checked type of a conditional. Type variables are bound by the parameters of a template,
and by `infer` in the extends part of a conditional for its true branch. Putting in display names
keeps all places with the variables in scope.
-/

namespace TableTypes

open TypeScript SymbolTable

/-- A place in a type expression where names stand. -/
inductive NamePlace where
  /-- A named type or the head of a generic. -/
  | name (n : String) (isTable : Bool)
  | text (code : String)
  /-- The checked type of a conditional. -/
  | check (code : String)
  deriving DecidableEq, Repr

namespace NamePlace

/-- The name that a place refers to. -/
def reference? : NamePlace → Option String
  | name n _ => some n
  | text code => some code
  | check _ => none

/-- The names that display names are put in for at a place. -/
def names : NamePlace → List String
  | name n isTable => if isTable then [] else [n]
  | text code => namesInText code
  | check code => namesInText code

/-- A place after display names have been put in. -/
def rename (symbols : Symbols) (params : List String) : NamePlace → NamePlace
  | name n isTable =>
    if isTable then name n true else name ((symbols.rename? params n).getD n) false
  | text code => text (renameText symbols params code)
  | check code => check (renameText symbols params code)

end NamePlace

mutual

/-- The variables that a type expression in the extends part of a conditional binds for its true
branch. What stands in the extends part of a conditional inside is bound there. -/
def TypeScript.TypeExpr.inferred : TypeExpr → List String
  | .name _ _ => []
  | .literal _ => []
  | .array element => element.inferred
  | .union members => inferredAll members
  | .object properties => inferredProperties properties
  | .generic _ args => inferredAll args
  | .infer n => [n]
  | .conditional _ _ whenTrue whenFalse => whenTrue.inferred ++ whenFalse.inferred
  | .moduleExport _ => []
  | .raw _ => []

/-- The variables that some type expressions bind. -/
def inferredAll : List TypeExpr → List String
  | [] => []
  | e :: es => e.inferred ++ inferredAll es

/-- The variables that the types of some properties bind. -/
def inferredProperties : List (Property TypeExpr) → List String
  | [] => []
  | p :: ps => inferredProperty p ++ inferredProperties ps

/-- The variables that the type of a property binds. -/
def inferredProperty : Property TypeExpr → List String
  | ⟨_, value, _⟩ => value.inferred

end

mutual

/-- The places of a type expression in order, each with the variables in scope there. -/
def TypeScript.TypeExpr.places (scope : List String) : TypeExpr → List (List String × NamePlace)
  | .name n isTable => [(scope, .name n isTable)]
  | .literal _ => []
  | .array element => element.places scope
  | .union members => placesAll scope members
  | .object properties => placesProperties scope properties
  | .generic head args => (scope, .name head false) :: placesAll scope args
  | .infer _ => []
  | .conditional check extended whenTrue whenFalse =>
    (scope, .check check) :: (extended.places scope ++
      whenTrue.places (extended.inferred ++ scope) ++ whenFalse.places scope)
  | .moduleExport _ => []
  | .raw code => [(scope, .text code)]

/-- The places of some type expressions. -/
def placesAll (scope : List String) : List TypeExpr → List (List String × NamePlace)
  | [] => []
  | e :: es => e.places scope ++ placesAll scope es

/-- The places of the types of some properties. -/
def placesProperties (scope : List String) :
    List (Property TypeExpr) → List (List String × NamePlace)
  | [] => []
  | p :: ps => placesProperty scope p ++ placesProperties scope ps

/-- The places of the type of a property. -/
def placesProperty (scope : List String) : Property TypeExpr → List (List String × NamePlace)
  | ⟨_, value, _⟩ => value.places scope

end

/-- The variables that types infer are those of each of them in turn. -/
theorem inferredAll_eq_flatMap (es : List TypeExpr) :
    inferredAll es = es.flatMap TypeExpr.inferred := by
  induction es with
  | nil => rfl
  | cons e es ih => rw [inferredAll, ih, List.flatMap_cons]

/-- The variables that properties infer are those of each value in turn. -/
theorem inferredProperties_eq_flatMap (ps : Members) :
    inferredProperties ps = ps.flatMap (·.value.inferred) := by
  induction ps with
  | nil => rfl
  | cons p ps ih =>
    obtain ⟨key, value, comment⟩ := p
    rw [inferredProperties, ih, List.flatMap_cons, inferredProperty]

/-- The places in types are those in each of them in turn. -/
theorem placesAll_eq_flatMap (scope : List String) (es : List TypeExpr) :
    placesAll scope es = es.flatMap (·.places scope) := by
  induction es with
  | nil => rfl
  | cons e es ih => rw [placesAll, ih, List.flatMap_cons]

/-- The places in properties are those in each value in turn. -/
theorem placesProperties_eq_flatMap (scope : List String) (ps : Members) :
    placesProperties scope ps = ps.flatMap (·.value.places scope) := by
  induction ps with
  | nil => rfl
  | cons p ps ih =>
    obtain ⟨key, value, comment⟩ := p
    rw [placesProperties, ih, List.flatMap_cons, placesProperty]

/-! ## References -/

/-- In order, the references of a type expression are what its places refer to. -/
theorem filterMap_reference?_places (scope : List String) (e : TypeExpr) :
    (e.places scope).filterMap (·.2.reference?) = e.references := by
  have hall {scope : List String} {es : List TypeExpr}
      (ih : ∀ e ∈ es, ∀ scope, (e.places scope).filterMap (·.2.reference?) = e.references) :
      (placesAll scope es).filterMap (·.2.reference?) = referencesAll es := by
    rw [placesAll_eq_flatMap, referencesAll_eq_flatMap, List.filterMap_flatMap]
    exact List.flatMap_congr fun e he => ih e he scope
  induction e using TypeExpr.induction generalizing scope with
  | name n isTable => rfl
  | literal value => rfl
  | array element ih => exact ih scope
  | union members ih => exact hall ih
  | object properties ih =>
    rw [TypeExpr.places, TypeExpr.references, placesProperties_eq_flatMap,
      referencesProperties_eq_flatMap, List.filterMap_flatMap]
    exact List.flatMap_congr fun p hp => ih p hp scope
  | generic head args ih => exact congrArg (head :: ·) (hall ih)
  | infer n => rfl
  | conditional check extended whenTrue whenFalse ihe iht ihf =>
    rw [TypeExpr.places, TypeExpr.references, List.filterMap_cons_none rfl, List.filterMap_append,
      List.filterMap_append, ihe, iht, ihf]
  | moduleExport reference => rfl
  | raw code => rfl

/-- A type expression refers to a name exactly when one of its places does. -/
theorem mem_references_iff_places (scope : List String) {e : TypeExpr} {n : String} :
    n ∈ e.references ↔ ∃ q ∈ e.places scope, q.2.reference? = some n := by
  rw [← filterMap_reference?_places scope, List.mem_filterMap]

/-- A type expression refers to a name where it is no variable in scope. -/
def TypeScript.TypeExpr.RefersFreely (scope : List String) (e : TypeExpr) (n : String) : Prop :=
  ∃ q ∈ e.places scope, q.2.reference? = some n ∧ n ∉ q.1

/-- A type expression has a name as a reference where it is a variable in scope. -/
def TypeScript.TypeExpr.RefersBound (scope : List String) (e : TypeExpr) (n : String) : Prop :=
  ∃ q ∈ e.places scope, q.2.reference? = some n ∧ n ∈ q.1

/-- A type expression refers to a name freely or has it as a variable, or both. -/
theorem refersFreely_or_refersBound (scope : List String) {e : TypeExpr} {n : String}
    (hn : n ∈ e.references) : e.RefersFreely scope n ∨ e.RefersBound scope n := by
  obtain ⟨q, hq, hreference⟩ := (mem_references_iff_places scope).mp hn
  by_cases hbound : n ∈ q.1
  · exact .inr ⟨q, hq, hreference, hbound⟩
  · exact .inl ⟨q, hq, hreference, hbound⟩

/-! ## Display names -/

section

variable (symbols : Symbols) (params : List String)

/-- Putting in display names leaves the variables that are bound alone. -/
theorem TypeScript.TypeExpr.inferred_rename (e : TypeExpr) :
    (e.rename symbols params).inferred = e.inferred := by
  have hall {es : List TypeExpr} (ih : ∀ e ∈ es, (e.rename symbols params).inferred = e.inferred) :
      inferredAll (renameAll symbols params es) = inferredAll es := by
    rw [inferredAll_eq_flatMap, inferredAll_eq_flatMap, renameAll_eq_map, List.flatMap_map]
    exact List.flatMap_congr ih
  induction e using TypeExpr.induction with
  | name n isTable => cases isTable <;> rfl
  | literal value => rfl
  | array element ih => exact ih
  | union members ih => exact hall ih
  | object properties ih =>
    rw [rename, inferred, inferred, inferredProperties_eq_flatMap, inferredProperties_eq_flatMap,
      renameProperties_eq_map, List.flatMap_map]
    refine List.flatMap_congr fun p hp => ?_
    rw [renameProperty_eq]
    exact ih p hp
  | generic head args ih => exact hall ih
  | infer n => rfl
  | conditional check extended whenTrue whenFalse ihe iht ihf =>
    rw [rename, inferred, inferred, iht, ihf]
  | moduleExport reference => rfl
  | raw code => rfl

/-- Putting in display names keeps the places of names in order and the variables in scope at
them. -/
theorem TypeScript.TypeExpr.places_rename (scope : List String) (e : TypeExpr) :
    (e.rename symbols params).places scope =
      (e.places scope).map fun q => (q.1, q.2.rename symbols params) := by
  have hall {scope : List String} {es : List TypeExpr}
      (ih : ∀ e ∈ es, ∀ scope, (e.rename symbols params).places scope =
        (e.places scope).map fun q => (q.1, q.2.rename symbols params)) :
      placesAll scope (renameAll symbols params es) =
        (placesAll scope es).map fun q => (q.1, q.2.rename symbols params) := by
    rw [placesAll_eq_flatMap, placesAll_eq_flatMap, renameAll_eq_map, List.flatMap_map,
      List.map_flatMap]
    exact List.flatMap_congr fun e he => ih e he scope
  induction e using TypeExpr.induction generalizing scope with
  | name n isTable => cases isTable <;> rfl
  | literal value => rfl
  | array element ih => exact ih scope
  | union members ih => exact hall ih
  | object properties ih =>
    rw [rename, places, places, placesProperties_eq_flatMap, placesProperties_eq_flatMap,
      renameProperties_eq_map, List.flatMap_map, List.map_flatMap]
    refine List.flatMap_congr fun p hp => ?_
    rw [renameProperty_eq]
    exact ih p hp scope
  | generic head args ih =>
    rw [rename, places, places, List.map_cons, hall ih]
    rfl
  | infer n => rfl
  | conditional check extended whenTrue whenFalse ihe iht ihf =>
    rw [rename, places, places, inferred_rename, ihe, iht, ihf, List.map_cons, List.map_append,
      List.map_append]
    rfl
  | moduleExport reference => rfl
  | raw code => rfl

end

end TableTypes
