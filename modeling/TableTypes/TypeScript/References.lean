import TableTypes.TypeScript.Syntax

/-!
# References

The names that a type expression refers to, in the order in which they stand in it. Type variables,
literals and the checked type of a conditional refer to nothing; type text of the user refers to
the whole of itself.
-/

namespace TableTypes.TypeScript

mutual

/-- The names that a type expression refers to. -/
def TypeExpr.references : TypeExpr → List String
  | .name n _ => [n]
  | .literal _ => []
  | .array element => element.references
  | .union members => referencesAll members
  | .object properties => referencesProperties properties
  | .generic head args => head :: referencesAll args
  | .infer _ => []
  | .conditional _ extended whenTrue whenFalse =>
    extended.references ++ whenTrue.references ++ whenFalse.references
  | .moduleExport _ => []
  | .raw code => [code]

/-- The names that some type expressions refer to. -/
def referencesAll : List TypeExpr → List String
  | [] => []
  | e :: es => e.references ++ referencesAll es

/-- The names that the types of some properties refer to. -/
def referencesProperties : List (Property TypeExpr) → List String
  | [] => []
  | p :: ps => referencesProperty p ++ referencesProperties ps

/-- The names that the type of a property refers to. -/
def referencesProperty : Property TypeExpr → List String
  | ⟨_, value, _⟩ => value.references

end

/-- The names that the body of a definition refers to. -/
def Definition.references (d : Definition) : List String :=
  d.body.references

end TableTypes.TypeScript
