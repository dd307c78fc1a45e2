import TableTypes.Database.QualifiedName
import TableTypes.Dialect.Basic

/-!
# Data types under their catalog names

A data type can be written in many ways: in any letter case, with parameters, with brackets or the
word `ARRAY` behind it for an array, and under one of several names. The catalog name is the one
name that stands for all of them.
-/

namespace TableTypes

/-- A data type under its catalog name. -/
structure CatalogType where
  name : String
  schema : Option String := none
  isArray : Bool := false
  /-- Whether columns of the type have a default without further words. -/
  impliesDefault : Bool := false
  deriving DecidableEq, Repr, Inhabited

namespace CatalogType

/-- A type before the brackets at its end. -/
def beforeBrackets? (cs : List Char) : Option (List Char) :=
  if cs.getLast? = some ']' then (Text.cutLast? '[' cs).map (·.1) else none

/-- The word for an array behind the type of its elements. -/
def arrayWord : List Char :=
  [' ', 'a', 'r', 'r', 'a', 'y']

/-- A type before the word `array` at its end. -/
def beforeArrayWord? (cs : List Char) : Option (List Char) :=
  if arrayWord.isSuffixOf cs then some (cs.take (cs.length - arrayWord.length)) else none

/-- A type in small letters without the last of its array marks, if it has one. -/
def arrayElement? (cs : List Char) : Option (List Char) :=
  ((beforeBrackets? cs).or (beforeArrayWord? cs)).map Unicode.trimEnd

/-- Taking blanks off the end makes a text no longer. -/
theorem length_trimEnd_le (cs : List Char) : (Unicode.trimEnd cs).length ≤ cs.length := by
  have h := (List.dropWhile_sublist Unicode.isBlank (l := cs.reverse)).length_le
  simpa [Unicode.trimEnd] using h

/-- What stands before brackets is shorter than the whole. -/
theorem length_beforeBrackets? {cs front : List Char} (h : beforeBrackets? cs = some front) :
    front.length < cs.length := by
  unfold beforeBrackets? at h
  split at h
  · obtain ⟨⟨a, b⟩, hab, rfl⟩ := Option.map_eq_some_iff.1 h
    rw [Text.cutLast?_eq_some hab]
    simp
  · cases h

/-- What stands before the word for an array is shorter than the whole. -/
theorem length_beforeArrayWord? {cs front : List Char} (h : beforeArrayWord? cs = some front) :
    front.length < cs.length := by
  unfold beforeArrayWord? at h
  split at h
  next hs =>
    cases h
    have hle := (List.isSuffixOf_iff_suffix.1 hs).length_le
    simp only [arrayWord, List.length_cons, List.length_nil, List.length_take] at hle ⊢
    omega
  next => cases h

/-- An array mark takes a character at least. -/
theorem length_arrayElement? {cs element : List Char} (h : arrayElement? cs = some element) :
    element.length < cs.length := by
  obtain ⟨front, hf, rfl⟩ := Option.map_eq_some_iff.1 h
  refine Nat.lt_of_le_of_lt (length_trimEnd_le front) ?_
  rcases Option.or_eq_some_iff.1 hf with hb | ⟨_, ha⟩
  · exact length_beforeBrackets? hb
  · exact length_beforeArrayWord? ha

/-- A type without its array marks, and whether it had any. -/
def stripArrays (cs : List Char) : List Char × Bool :=
  match _h : arrayElement? cs with
  | some element => ((stripArrays element).1, true)
  | none => (cs, false)
termination_by cs.length
decreasing_by exact length_arrayElement? _h

/-- A type without its parameters: what stands in parentheses and the blanks before it. The first
`skip` characters are left out as the rest of some parameters. -/
def stripParametersFrom : Nat → List Char → List Char
  | _, [] => []
  | skip + 1, _ :: rest => stripParametersFrom skip rest
  | 0, c :: rest =>
    let blanks := (c :: rest).takeWhile Unicode.isBlank
    match (c :: rest).drop blanks.length with
    | '(' :: inside =>
      match Text.cut? ')' inside with
      | some (parameters, _) =>
        stripParametersFrom (blanks.length + parameters.length + 1) rest
      | none => c :: stripParametersFrom 0 rest
    | _ => c :: stripParametersFrom 0 rest

/-- A type without its parameters. -/
def stripParameters (cs : List Char) : List Char :=
  stripParametersFrom 0 cs

/-- The words of a type with one space between them. -/
def joinWords (cs : List Char) : List Char :=
  let pieces := Text.splitOn ' ' (cs.map fun c => if Unicode.isBlank c then ' ' else c)
  [' '].intercalate (pieces.filter (!·.isEmpty))

/-- The catalog name of a Postgres type, and whether the type implies a default. -/
def postgresName (name : String) : String × Bool :=
  match name with
  | "int" | "integer" => ("int4", false)
  | "smallint" => ("int2", false)
  | "bigint" => ("int8", false)
  | "serial" | "serial4" => ("int4", true)
  | "smallserial" | "serial2" => ("int2", true)
  | "bigserial" | "serial8" => ("int8", true)
  | "boolean" => ("bool", false)
  | "real" => ("float4", false)
  | "float" | "double precision" => ("float8", false)
  | "character varying" => ("varchar", false)
  | "character" | "char" => ("bpchar", false)
  | "decimal" => ("numeric", false)
  | "timestamp without time zone" => ("timestamp", false)
  | "timestamp with time zone" => ("timestamptz", false)
  | "time without time zone" => ("time", false)
  | "time with time zone" => ("timetz", false)
  | "bit varying" => ("varbit", false)
  | other => (other, false)

/-- The catalog name of a MySQL type, and whether the type implies a default. -/
def mysqlName (name : String) : String × Bool :=
  match name with
  | "integer" => ("int", false)
  | "bool" | "boolean" => ("tinyint", false)
  | "dec" | "numeric" | "fixed" => ("decimal", false)
  | "double precision" | "real" => ("double", false)
  | "character varying" => ("varchar", false)
  | "character" => ("char", false)
  | "serial" => ("bigint", true)
  | other => (other, false)

/-- The affinity of an SQLite type. -/
def sqliteAffinity (name : String) : String :=
  let has (part : String) : Bool := Text.contains part.toList name.toList
  if ["any", "blob", "boolean", "integer", "numeric", "real", "text"].contains name then name
  else if name = "bool" then "boolean"
  else if name = "" then "blob"
  else if has "int" then "integer"
  else if has "char" || has "clob" || has "text" then "text"
  else if has "blob" then "blob"
  else if has "real" || has "floa" || has "doub" then "real"
  else "numeric"

/-- The catalog name of a type in a dialect, and whether the type implies a default. -/
def canonicalName : Dialect → String → String × Bool
  | .postgres, name => postgresName name
  | .mysql, name => mysqlName name
  | .sqlite, name => (sqliteAffinity name, false)

/-- The words of a MySQL type that say how its numbers are kept. -/
def mysqlModifiers : List String :=
  [" unsigned", " signed", " zerofill"]

/-- Reads a type as it is written. -/
def read (dialect : Dialect) (text : String) : CatalogType :=
  let (element, isArray) :=
    stripArrays (Unicode.lowercase (Unicode.trimText text)).toList
  let plain := stripParameters element
  let plain :=
    if dialect = .mysql then mysqlModifiers.foldl (fun cs m => Text.erase m.toList cs) plain
    else plain
  let plain := joinWords plain
  let (schema, written) :=
    match Text.cutLast? '.' plain with
    | some (schema, name) => (some (String.ofList (Text.unquote schema)), String.ofList (Text.unquote name))
    | none => (none, String.ofList (Text.unquote plain))
  let (name, impliesDefault) := canonicalName dialect written
  { name, schema, isArray, impliesDefault }

end CatalogType

end TableTypes
