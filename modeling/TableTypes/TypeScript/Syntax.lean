import TableTypes.Number.Binary64

/-!
# Type expressions and declarations

The part of the TypeScript type language that the generated files use.
-/

namespace TableTypes.TypeScript

/-- A literal type. -/
inductive Literal where
  | text (value : String)
  | number (value : Binary64)
  deriving DecidableEq, Repr

/-- An export of an external module; `exported` is its name there when it differs from the local
one. -/
structure ModuleExport where
  path : String
  exported : Option String
  deriving DecidableEq, Repr

/-- A property of an object type or interface, with an optional documentation comment. -/
structure Property (τ : Type) where
  key : String
  value : τ
  comment : Option String
  deriving Repr

/-- A type expression. -/
inductive TypeExpr where
  /-- A named type; `isTable` marks a reference to the interface of a table. -/
  | name (name : String) (isTable : Bool)
  | literal (value : Literal)
  | array (element : TypeExpr)
  | union (members : List TypeExpr)
  | object (properties : List (Property TypeExpr))
  | generic (head : String) (args : List TypeExpr)
  /-- A type variable bound in the extends part of a conditional type. -/
  | infer (name : String)
  | conditional (check : String) (extended whenTrue whenFalse : TypeExpr)
  | moduleExport (reference : ModuleExport)
  /-- Type text given by the user, printed as it is. -/
  | raw (code : String)
  deriving Repr, Inhabited

/-- The properties of an interface. -/
abbrev Members := List (Property TypeExpr)

/-- The right-hand side of a type alias, with or without parameters. -/
inductive Definition where
  | plain (body : TypeExpr)
  | template (params : List String) (body : TypeExpr)
  deriving Repr, Inhabited

/-- The type expression of a definition. -/
def Definition.body : Definition → TypeExpr
  | plain body => body
  | template _ body => body

/-- The parameters of a definition. -/
def Definition.params : Definition → List String
  | plain _ => []
  | template params _ => params

/-- A member of an enum: its key and its value. -/
structure EnumMember where
  key : String
  value : Literal
  deriving DecidableEq, Repr

/-- A declaration that can be exported. -/
inductive Declaration where
  | typeAlias (name : String) (definition : Definition)
  | interface (name : String) (members : Members)
  | enum (name : String) (members : List EnumMember)
  deriving Repr

/-- The declared name. -/
def Declaration.name : Declaration → String
  | typeAlias name _ => name
  | interface name _ => name
  | enum name _ => name

/-- One name in an import statement: the export and the local name when that differs. -/
structure ImportClause where
  name : String
  local? : Option String
  deriving DecidableEq, Repr

/-- The name that an import clause binds. -/
def ImportClause.bound (c : ImportClause) : String :=
  c.local?.getD c.name

/-- A statement of a generated file. -/
inductive Statement where
  | imports (path : String) (clauses : List ImportClause)
  | exports (declaration : Declaration)
  deriving Repr

namespace TypeExpr

/-- Induction over type expressions: the hypothesis holds for every member of a union, argument of a
generic and property type of an object. -/
@[elab_as_elim]
theorem induction {motive : TypeExpr → Prop}
    (name : ∀ n isTable, motive (.name n isTable))
    (literal : ∀ value, motive (.literal value))
    (array : ∀ element, motive element → motive (.array element))
    (union : ∀ members, (∀ e ∈ members, motive e) → motive (.union members))
    (object : ∀ properties, (∀ p ∈ properties, motive p.value) → motive (.object properties))
    (generic : ∀ head args, (∀ e ∈ args, motive e) → motive (.generic head args))
    (infer : ∀ n, motive (.infer n))
    (conditional : ∀ check extended whenTrue whenFalse, motive extended → motive whenTrue →
      motive whenFalse → motive (.conditional check extended whenTrue whenFalse))
    (moduleExport : ∀ reference, motive (.moduleExport reference))
    (raw : ∀ code, motive (.raw code)) (e : TypeExpr) : motive e := by
  refine @TypeExpr.rec motive (fun es => ∀ e ∈ es, motive e)
    (fun ps => ∀ p ∈ ps, motive p.value) (fun p => motive p.value)
    name literal array union object generic infer conditional moduleExport raw
    ?_ ?_ ?_ ?_ ?_ e
  · simp
  · intro e es he hes
    simpa using And.intro he hes
  · simp
  · intro p ps hp hps
    simpa using And.intro hp hps
  · intro key value comment hvalue
    exact hvalue

/-- A named type that is no table. -/
abbrev named (name : String) : TypeExpr := .name name false

/-- A string literal type. -/
abbrev text (value : String) : TypeExpr := .literal (.text value)

/-- The type that distinguishes selected, inserted and updated values of a column. -/
def columnType (select insert update : TypeExpr) : TypeExpr :=
  .generic "ColumnType" [select, insert, update]

/-- The union of some types: `never` for none, the type itself for one. -/
def unionOf : List TypeExpr → TypeExpr
  | [] => named "never"
  | [member] => member
  | members => .union members

/-- The scalars whose arrays are written with brackets. -/
def simpleNames : List String := ["boolean", "number", "string"]

/-- Whether a type is one of the scalars whose arrays are written with brackets. -/
def isSimple : TypeExpr → Bool
  | .name n _ => simpleNames.contains n
  | _ => false

end TypeExpr

end TableTypes.TypeScript
