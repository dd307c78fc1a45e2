import TableTypes.Database.Basic
import TableTypes.Json.Basic

/-!
# The metadata of a database as JSON
-/

namespace TableTypes

/-- A column as JSON. -/
def Column.toJson (c : Column) : Json :=
  .ofMembers [
    ("name", .text (some c.name)),
    ("data_type", .text (some c.dataType)),
    ("data_type_schema", .ofText? c.dataTypeSchema),
    ("enum_values", match c.enumValues with
      | some labels => .ofTexts labels
      | none => .null),
    ("has_default_value", .boolean c.hasDefault),
    ("is_array", .boolean c.isArray),
    ("is_auto_incrementing", .boolean c.isAutoIncrementing),
    ("is_nullable", .boolean c.isNullable),
    ("comment", .ofText? c.comment)]

/-- A table as JSON. -/
def Table.toJson (t : Table) : Json :=
  .ofMembers [
    ("schema", .ofText? t.schema),
    ("name", .text (some t.name)),
    ("columns", .array (t.columns.map Column.toJson)),
    ("is_view", .boolean t.isView),
    ("is_partition", .boolean t.isPartition)]

/-- A database as JSON. -/
def Database.toJson (db : Database) : Json :=
  .ofMembers [
    ("tables", .array (db.tables.map Table.toJson)),
    ("enums", .ofMembers (db.enums.map fun (key, labels) => (key, .ofTexts labels)))]

/-- The metadata of a database as text of several lines. -/
def Database.describe (db : Database) : String :=
  db.toJson.print 0 ++ "\n"

end TableTypes
