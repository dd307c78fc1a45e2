import TableTypes.Dialect.Basic
import TableTypes.Dictionary
import TableTypes.TypeScript.Syntax

/-!
# Dialect profiles

How the data types of each dialect are declared: the type of each scalar, and the helper types and
imports that those types need.
-/

namespace TableTypes

open TypeScript
open TypeScript.TypeExpr (named columnType)

/-- Named definitions and imports that type expressions may refer to. -/
structure Library where
  definitions : Dictionary Definition
  imports : Dictionary ModuleExport

/-- The declaration rules of a dialect. Scalars are keyed by their data type in small letters. -/
structure Profile where
  dialect : Dialect
  defaultScalar : TypeExpr
  defaultSchemas : List String
  definitions : Dictionary Definition
  imports : Dictionary ModuleExport
  scalars : Dictionary TypeExpr

namespace Profile

/-- A union of named types. -/
def names (ns : List String) : TypeExpr :=
  .union (ns.map named)

/-- An object type with numeric properties. -/
def numbers (keys : List String) : Definition :=
  .plain (.object (keys.map fun key => { key, value := named "number", comment := none }))

/-- A type that is selected as one type, and inserted and updated as a union of some. -/
def selectedAs (select : String) (written : List String) : Definition :=
  .plain (columnType (named select) (names written) (names written))

/-- The types of JSON values. -/
def jsonDefinitions : List (String × Definition) :=
  [ ("Json", .plain (columnType (named "JsonValue") (named "string") (named "string"))),
    ("JsonArray", .plain (.array (named "JsonValue"))),
    ("JsonObject", .plain (.raw "\x7b\n  [x: string]: JsonValue | undefined;\n\x7d")),
    ("JsonPrimitive", .plain (names ["boolean", "number", "string", "null"])),
    ("JsonValue", .plain (names ["JsonArray", "JsonObject", "JsonPrimitive"])) ]

/-- The triple of a column's types with a variable in each place. -/
def inferredColumn : TypeExpr :=
  columnType (.infer "S") (.infer "I") (.infer "U")

/-- The helper types of every dialect. `ArrayType` makes an array of each part of a column type,
and `Generated` makes its insert part optional. -/
def sharedDefinitions : Dictionary Definition :=
  Dictionary.ofPairs
    [ ("ArrayType", .template ["T"]
        (.conditional "ArrayTypeImpl<T>" (.array (.infer "U")) (.array (named "U"))
          (.generic "ArrayTypeImpl" [named "T"]))),
      ("ArrayTypeImpl", .template ["T"]
        (.conditional "T" inferredColumn
          (columnType (.array (named "S")) (.array (named "I")) (.array (named "U")))
          (.array (named "T")))),
      ("Generated", .template ["T"]
        (.conditional "T" inferredColumn
          (columnType (named "S") (names ["I", "undefined"]) (named "U"))
          (columnType (named "T") (names ["T", "undefined"]) (named "T")))) ]

/-- The imports of every dialect. -/
def sharedImports : Dictionary ModuleExport :=
  [("ColumnType", { path := "kysely", exported := none })]

/-- Scalars by data type. -/
def scalarTable (entries : List (String × String)) : Dictionary TypeExpr :=
  Dictionary.ofPairs (entries.map fun (dataType, name) => (dataType, named name))

/-- The profile of PostgreSQL. -/
def postgres : Profile where
  dialect := .postgres
  defaultScalar := named "string"
  defaultSchemas := ["public"]
  definitions := Dictionary.ofPairs <|
    [ ("Circle", numbers ["x", "y", "radius"]),
      ("Int8", selectedAs "string" ["string", "number", "bigint"]),
      ("Interval", selectedAs "IPostgresInterval" ["IPostgresInterval", "number", "string"]),
      ("Numeric", selectedAs "string" ["number", "string"]),
      ("Point", numbers ["x", "y"]),
      ("Timestamp", selectedAs "Date" ["Date", "string"]) ] ++ jsonDefinitions
  imports := [("IPostgresInterval", { path := "postgres-interval", exported := none })]
  scalars := scalarTable
    [ ("bit", "string"), ("bool", "boolean"), ("box", "string"), ("bpchar", "string"),
      ("bytea", "Buffer"), ("cidr", "string"), ("circle", "Circle"), ("date", "Timestamp"),
      ("daterange", "string"), ("float4", "number"), ("float8", "number"), ("inet", "string"),
      ("int2", "number"), ("int4", "number"), ("int4range", "string"), ("int8", "Int8"),
      ("int8range", "string"), ("interval", "Interval"), ("json", "Json"), ("jsonb", "Json"),
      ("line", "string"), ("lseg", "string"), ("macaddr", "string"), ("money", "string"),
      ("numeric", "Numeric"), ("numrange", "string"), ("oid", "number"), ("path", "string"),
      ("point", "Point"), ("polygon", "string"), ("text", "string"), ("time", "string"),
      ("timestamp", "Timestamp"), ("timestamptz", "Timestamp"), ("timetz", "string"),
      ("tsquery", "string"), ("tsrange", "string"), ("tstzrange", "string"),
      ("tsvector", "string"), ("txid_snapshot", "string"), ("uuid", "string"),
      ("varbit", "string"), ("varchar", "string"), ("xml", "string") ]

/-- The profile of MySQL. -/
def mysql : Profile where
  dialect := .mysql
  defaultScalar := named "unknown"
  defaultSchemas := []
  definitions := Dictionary.ofPairs <|
    [ ("Decimal", selectedAs "string" ["number", "string"]),
      ("Geometry", .plain (.union
        [named "LineString", named "Point", named "Polygon", .array (named "Geometry")])),
      ("LineString", .plain (.array (named "Point"))),
      ("Point", numbers ["x", "y"]),
      ("Polygon", .plain (.array (named "LineString"))) ] ++ jsonDefinitions
  imports := []
  scalars := scalarTable
    [ ("bigint", "number"), ("binary", "Buffer"), ("bit", "Buffer"), ("blob", "Buffer"),
      ("char", "string"), ("date", "Date"), ("datetime", "Date"), ("decimal", "Decimal"),
      ("double", "number"), ("float", "number"), ("geometry", "Geometry"), ("int", "number"),
      ("json", "Json"), ("linestring", "LineString"), ("longblob", "Buffer"),
      ("longtext", "string"), ("mediumblob", "Buffer"), ("mediumint", "number"),
      ("mediumtext", "string"), ("point", "Point"), ("polygon", "Polygon"),
      ("smallint", "number"), ("text", "string"), ("time", "string"), ("timestamp", "Date"),
      ("tinyblob", "Buffer"), ("tinyint", "number"), ("tinytext", "string"),
      ("varbinary", "Buffer"), ("varchar", "string"), ("year", "number") ]

/-- The profile of SQLite. -/
def sqlite : Profile where
  dialect := .sqlite
  defaultScalar := named "unknown"
  defaultSchemas := []
  definitions := []
  imports := []
  scalars := scalarTable
    [ ("any", "unknown"), ("blob", "Buffer"), ("boolean", "number"), ("integer", "number"),
      ("numeric", "number"), ("real", "number"), ("text", "string") ]

/-- The profile of a dialect. -/
def ofDialect : Dialect → Profile
  | .postgres => postgres
  | .mysql => mysql
  | .sqlite => sqlite

/-- Whether a data type is a range type of the dialect. -/
def isRange (p : Profile) (dataType : String) : Bool :=
  p.dialect = .postgres
    && ("range".toList.isSuffixOf dataType.toList || "multirange".toList.isSuffixOf dataType.toList)

/-- The definitions and imports of every dialect together with those of this one. -/
def library (p : Profile) : Library where
  definitions := sharedDefinitions.override p.definitions
  imports := sharedImports.override p.imports

end Profile

end TableTypes
