import TableTypes.Sql.Parser.Basic
import TableTypes.Sql.Render

/-!
# Reading data types
-/

namespace TableTypes.Sql.Parser

/-- What may stand behind the keyword of a data type. -/
inductive TypeShape where
  /-- Nothing. -/
  | bare
  /-- One number in parentheses. -/
  | precision
  /-- One number in parentheses, and a word that says whether the type has a sign. -/
  | whole
  /-- One or two numbers in parentheses. -/
  | exact
  /-- One or two numbers in parentheses, and `UNSIGNED`. -/
  | unsignedExact
  /-- `UNSIGNED`. -/
  | unsigned
  /-- A length in parentheses. -/
  | length
  /-- `VARYING` or `LARGE OBJECT`, and a length in parentheses. -/
  | characters
  /-- A number in parentheses, and a time zone. -/
  | clock

/-- What may stand behind the keyword of a data type, if it is the keyword of one. -/
def typeShape? (d : Dialect) (word : String) : Option TypeShape :=
  if ["BOOLEAN", "BOOL", "FLOAT4", "FLOAT8", "FLOAT32", "FLOAT64", "UUID", "DATE", "DATE32",
      "TINYBLOB", "MEDIUMBLOB", "LONGBLOB", "JSON", "JSONB", "REGCLASS", "TEXT", "TINYTEXT",
      "MEDIUMTEXT", "LONGTEXT", "BYTEA", "TRIGGER", "INT16", "INT32", "INT64", "INT128", "INT256",
      "UINT8", "UINT16", "UINT32", "UINT64", "UINT128", "UINT256", "HUGEINT", "UHUGEINT",
      "UBIGINT", "USMALLINT", "UTINYINT"].contains word then some .bare
  else if ["BINARY", "CLOB", "BLOB", "BYTES", "VARBIT", "DATETIME", "TIMESTAMPTZ", "TIMETZ",
      "TIMESTAMP_NTZ", "STRING"].contains word then some .precision
  else if ["TINYINT", "INT2", "SMALLINT", "MEDIUMINT", "INT", "INT4", "INT8", "INTEGER",
      "BIGINT"].contains word then some .whole
  else if ["NUMERIC", "BIGNUMERIC", "BIGDECIMAL"].contains word then some .exact
  else if ["FLOAT", "DECIMAL", "DEC"].contains word then some .unsignedExact
  else if word = "REAL" then some .unsigned
  else if ["VARCHAR", "NVARCHAR", "VARBINARY"].contains word then some .length
  else if ["CHAR", "CHARACTER"].contains word then some .characters
  else if ["TIMESTAMP", "TIME"].contains word then some .clock
  else if d = .postgres && ["TSVECTOR", "TSQUERY", "POINT", "LINE", "LSEG", "BOX", "PATH",
      "POLYGON", "CIRCLE"].contains word then some .bare
  else none

/-- Reads a number in parentheses if it stands there. -/
def optionalPrecision : Parser (List String) := do
  if ← sign "(" then
    let n ← natural
    expectSign ")"
    return [toString n]
  else return []

/-- Reads one or two numbers in parentheses if they stand there. -/
def optionalScale : Parser (List String) := do
  if ← sign "(" then
    let n ← natural
    let scale ← (do if ← sign "," then return [← integer] else return [])
    expectSign ")"
    return toString n :: scale
  else return []

/-- Reads a length in parentheses if it stands there. -/
def optionalLength : Parser (List String) := do
  if ← sign "(" then
    let length ← (do
      if ← keyword "MAX" then return "MAX"
      else
        let n ← natural
        return toString n ++ spaced (← oneOf ["CHARACTERS", "OCTETS"]))
    expectSign ")"
    return [length]
  else return []

/-- Reads `UNSIGNED` if it stands there. -/
def unsignedSuffix : Parser String := do
  if ← keyword "UNSIGNED" then return " UNSIGNED" else return ""

/-- Reads a time zone if one stands there. -/
def timeZone : Parser String := do
  if ← keyword "WITH" then
    expectKeyword "TIME"
    expectKeyword "ZONE"
    return " WITH TIME ZONE"
  else if ← keyword "WITHOUT" then
    expectKeyword "TIME"
    expectKeyword "ZONE"
    return " WITHOUT TIME ZONE"
  else return ""

/-- Reads what stands behind the keyword of a data type. -/
def typeBehind (d : Dialect) (word : String) : TypeShape → Parser DataType
  | .bare => return .known word [] ""
  | .precision => return .known word (← optionalPrecision) ""
  | .whole => do
    let parameters ← optionalPrecision
    let suffix ← unsignedSuffix
    if suffix.isEmpty && d = .mysql then
      let _ ← keyword "SIGNED"
    return .known word parameters suffix
  | .exact => return .known word (← optionalScale) ""
  | .unsignedExact => return .known word (← optionalScale) (← unsignedSuffix)
  | .unsigned => return .known word [] (← unsignedSuffix)
  | .length => return .known word (← optionalLength) ""
  | .characters => do
    if ← keyword "VARYING" then return .known (word ++ " VARYING") (← optionalLength) ""
    else if ← keywords ["LARGE", "OBJECT"] then
      return .known (word ++ " LARGE OBJECT") (← optionalPrecision) ""
    else return .known word (← optionalLength) ""
  | .clock => do
    let parameters ← optionalPrecision
    return .known word parameters (← timeZone)

/-- Reads the units of an interval, such as `YEAR TO MONTH`. -/
def intervalFields : Parser String := do
  match ← oneOf ["YEAR", "MONTH", "DAY", "HOUR", "MINUTE", "SECOND"] with
  | none => return ""
  | some first =>
    let last : List String :=
      match first with
      | "YEAR" => ["MONTH"]
      | "DAY" => ["HOUR", "MINUTE", "SECOND"]
      | "HOUR" => ["MINUTE", "SECOND"]
      | "MINUTE" => ["SECOND"]
      | _ => []
    if last.isEmpty then return " " ++ first
    else if ← keyword "TO" then
      match last with
      | [only] =>
        expectKeyword only
        return " " ++ first ++ " TO " ++ only
      | _ => return " " ++ first ++ " TO " ++ (← expectOneOf last)
    else return " " ++ first

/-- Reads the parameters of a type behind their parenthesis: words, numbers and texts. -/
def typeModifiers : Parser (List String) := do
  let modifiers ← many fun ts =>
    match ts with
    | t :: rest =>
      match t.token with
      | .word s none => .ok (some (some s), rest)
      | .word s (some q) => .ok (some (some (Name.render ⟨s, some q⟩)), rest)
      | .number digits _ => .ok (some (some digits), rest)
      | .constant .single s => .ok (some (some s), rest)
      | .sign "," => .ok (some none, rest)
      | .sign ")" => .ok (none, ts)
      | _ => .error (.expected "type modifiers" ts.head?)
    | [] => .error (.expected "type modifiers" none)
  expectSign ")"
  return modifiers.filterMap id

/-- Takes a closing angle bracket, also one of two written as a single sign. -/
def closeAngle : Parser Unit :=
  fun ts =>
    match ts with
    | t :: rest =>
      if t.token = .sign ">" then .ok ((), rest)
      else if t.token = .sign ">>" then .ok ((), ⟨.sign ">", t.position, none⟩ :: rest)
      else .error (.expected ">" ts.head?)
    | [] => .error (.expected ">" none)

/-- Reads a label of an enum with its number. -/
def enumLabel (d : Dialect) : Parser (String × Option String) := do
  let label ← text d
  if ← sign "=" then
    let mark ← (do if ← sign "-" then return "-" else if ← sign "+" then return "+" else return "")
    fun ts =>
      match ts with
      | t :: rest =>
        match t.token with
        | .number digits isLong =>
          .ok ((label, some (mark ++ (Literal.number digits isLong).render)), rest)
        | .placeholder name => .ok ((label, some (mark ++ name)), rest)
        | _ => .error (.expected "literal number" ts.head?)
      | [] => .error (.expected "a value" none)
  else return (label, none)

/-- Reads the sizes of an array behind its element type. -/
def arraySuffixes (d : Dialect) (element : DataType) : Parser DataType := do
  if d = .postgres then
    let sizes ← many do
      if ← sign "[" then
        let size ← attempt natural
        expectSign "]"
        return some size
      else return none
    return sizes.foldl .array element
  else return element

/-- Reads a data type; the fuel bounds the depth of array types. -/
def dataTypeFrom (d : Dialect) : Nat → Parser DataType
  | 0 => fail .tooDeep
  | fuel + 1 => do
    let isWord := ((← peek).map fun t => t.token.isWord).getD false
    if !isWord then expected "a data type name"
    else
      let word ← peekKeyword 0
      let type ← (do
        match typeShape? d word with
        | some shape =>
          skip
          typeBehind d word shape
        | none =>
          match word with
          | "DOUBLE" => do
            skip
            if ← keyword "PRECISION" then
              return .known "DOUBLE PRECISION" [] (← unsignedSuffix)
            else return .known word (← optionalScale) (← unsignedSuffix)
          | "BIT" => do
            skip
            if ← keyword "VARYING" then return .known "BIT VARYING" (← optionalPrecision) ""
            else return .known word (← optionalPrecision) ""
          | "INTERVAL" => do
            skip
            if d = .postgres then
              let fields ← intervalFields
              return .known (word ++ fields) (← optionalPrecision) ""
            else return .known word [] ""
          | "ENUM" | "ENUM8" | "ENUM16" => do
            skip
            return .enum (← parenthesized (commaSeparated (enumLabel d)))
          | "SET" => do
            skip
            return .labelSet (← parenthesized (commaSeparated (text d)))
          | "ARRAY" => do
            skip
            expectSign "<"
            let element ← dataTypeFrom d fuel
            closeAngle
            return .arrayOf element
          | "SIGNED" => do
            skip
            if ← keyword "INTEGER" then return .known "SIGNED INTEGER" [] ""
            else return .known word [] ""
          | "UNSIGNED" => do
            skip
            if ← keyword "INTEGER" then return .known "UNSIGNED INTEGER" [] ""
            else return .known word [] ""
          | "TABLE" => do
            skip
            return .known word [] ""
          | _ => do
            let p ← path
            if ← sign "(" then return .named p (← typeModifiers) else return .named p [])
      arraySuffixes d type

/-- Reads a data type. -/
def dataType (d : Dialect) : Parser DataType :=
  fun ts => dataTypeFrom d (ts.length + 1) ts

end TableTypes.Sql.Parser
