import TableTypes.Text.Lines
import TableTypes.Text.Unquoted

/-!
# Names after their schema

A name in a schema may be written behind the name of the schema and a dot. A name that is written
without one belongs to the default schema, if there is one.
-/

namespace TableTypes

/-- A name and the schema that it belongs to. -/
structure QualifiedName where
  schema : Option String
  name : String
  deriving DecidableEq, Repr, Inhabited

namespace QualifiedName

/-- Reads a name whose parts stand between dots: the last part is the name and the one before it the
schema. -/
def read (defaultSchema : Option String) (text : String) : QualifiedName :=
  match ((Text.splitOn '.' text.toList).map fun part => String.ofList (Text.unquote part)).reverse with
  | name :: schema :: _ => { schema := some schema, name }
  | [name] => { schema := defaultSchema, name }
  | [] => { schema := defaultSchema, name := "" }

/-- The name behind its schema, if it has one. -/
def text (q : QualifiedName) : String :=
  match q.schema with
  | some schema => schema ++ "." ++ q.name
  | none => q.name

end QualifiedName

end TableTypes
