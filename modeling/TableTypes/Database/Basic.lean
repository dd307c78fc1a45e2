import TableTypes.Dictionary
import TableTypes.Unicode.CaseMap

/-!
# Database metadata

What is known of a database: its tables and views with their columns, and its enums.
-/

namespace TableTypes

/-- A column of a table or view. Its data type is in small letters; `enumValues` holds the labels of
an enum that has no name of its own. -/
structure Column where
  name : String
  dataType : String
  dataTypeSchema : Option String := none
  enumValues : Option (List String) := none
  hasDefault : Bool := false
  isArray : Bool := false
  isAutoIncrementing : Bool := false
  isNullable : Bool := false
  comment : Option String := none
  deriving DecidableEq, Repr, Inhabited

/-- A table or view. -/
structure Table where
  schema : Option String
  name : String
  columns : List Column := []
  isView : Bool := false
  isPartition : Bool := false
  deriving DecidableEq, Repr, Inhabited

/-- The labels of each enum in the order of its definition, keyed by the name in small letters. -/
abbrev Enums := Dictionary (List String)

/-- The metadata of a database. -/
structure Database where
  tables : List Table
  enums : Enums
  deriving DecidableEq, Repr, Inhabited

/-- A column of a data type, in small letters, without further properties. -/
def Column.ofType (name dataType : String) : Column :=
  { name, dataType := Unicode.lowercase dataType }

namespace Column

/-- A column that can hold null. -/
def nullable (c : Column) : Column :=
  { c with isNullable := true }

/-- A column with a default. -/
def withDefault (c : Column) : Column :=
  { c with hasDefault := true }

/-- A column that counts on by itself. -/
def autoIncrementing (c : Column) : Column :=
  { c with isAutoIncrementing := true }

/-- A column of arrays of the type that it had. -/
def array (c : Column) : Column :=
  { c with isArray := true }

/-- A column whose type belongs to a schema. -/
def withSchema (c : Column) (schema : String) : Column :=
  { c with dataTypeSchema := some schema }

/-- A column of an enum without a name, given by its labels. -/
def withEnumValues (c : Column) (labels : List String) : Column :=
  { c with enumValues := some labels }

end Column

/-- The first column of a name. -/
def Table.column? (t : Table) (name : String) : Option Column :=
  t.columns.find? (·.name = name)

/-- The name of a table after its schema, if it has one. -/
def Table.qualifiedName (t : Table) : String :=
  match t.schema with
  | some schema => schema ++ "." ++ t.name
  | none => t.name

namespace Enums

/-- Gives an enum its labels, in place of those it has. -/
def set (enums : Enums) (key : String) (labels : List String) : Enums :=
  Dictionary.put (Unicode.lowercase key) labels enums

/-- Adds a label behind those of an enum. -/
def add (enums : Enums) (key label : String) : Enums :=
  let key := Unicode.lowercase key
  Dictionary.put key ((Dictionary.get? enums key).getD [] ++ [label]) enums

/-- Texts in ascending order. -/
def sorted (labels : List String) : List String :=
  labels.mergeSort fun a b => a ≤ b

/-- The labels of an enum in ascending order. -/
def labels? (enums : Enums) (key : String) : Option (List String) :=
  (Dictionary.get? enums (Unicode.lowercase key)).map sorted

/-- Whether an enum is known. -/
def contains (enums : Enums) (key : String) : Bool :=
  Dictionary.has enums (Unicode.lowercase key)

end Enums

end TableTypes
