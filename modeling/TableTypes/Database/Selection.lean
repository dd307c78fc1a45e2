import TableTypes.Database.Basic
import TableTypes.TablePattern

/-!
# Selecting tables

Which tables of a database go into the generated file.
-/

namespace TableTypes

/-- Which tables are wanted: those that one pattern selects and another does not, and partitions
only on request. A pattern that is missing leaves all tables in. -/
structure Selection where
  included : Option TablePattern := none
  excluded : Option TablePattern := none
  partitions : Bool := false

namespace Selection

/-- Whether a table is wanted. -/
def wants (s : Selection) (t : Table) : Bool :=
  s.included.all (·.isMatch t.schema t.name) && !s.excluded.any (·.isMatch t.schema t.name) &&
    (s.partitions || !t.isPartition)

/-- The selection by two patterns. -/
def ofPatterns (included excluded : Option String) (partitions : Bool) :
    Except Glob.Error Selection := do
  let included ← included.mapM TablePattern.parse
  let excluded ← excluded.mapM TablePattern.parse
  return { included, excluded, partitions }

end Selection

/-- A database with only the tables that are wanted. -/
def Database.select (db : Database) (s : Selection) : Database :=
  { db with tables := db.tables.filter s.wants }

end TableTypes
