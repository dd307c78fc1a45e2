import TableTypes.Unicode.CaseMap

/-!
# SQL dialects

The dialects whose schemas can be read.
-/

namespace TableTypes

/-- A dialect of SQL. -/
inductive Dialect where
  | postgres
  | mysql
  | sqlite
  deriving DecidableEq, Repr, Inhabited

namespace Dialect

/-- The name of a dialect. -/
def name : Dialect → String
  | postgres => "postgres"
  | mysql => "mysql"
  | sqlite => "sqlite"

/-- The dialect of a name in any letter case. -/
def ofName? (s : String) : Option Dialect :=
  match Unicode.lowercase s with
  | "postgres" => some postgres
  | "postgresql" => some postgres
  | "pg" => some postgres
  | "mysql" => some mysql
  | "sqlite" => some sqlite
  | _ => none

/-- The schema that names without one belong to. -/
def defaultSchema : Dialect → Option String
  | postgres => some "public"
  | mysql => none
  | sqlite => none

end Dialect

end TableTypes
