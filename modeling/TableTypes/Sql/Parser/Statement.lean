import TableTypes.Sql.Lexer
import TableTypes.Sql.Parser.Definition
import TableTypes.Sql.Parser.Query

/-!
# Reading statements

Tables, types, domains, comments and views are read in full. Of the other statements only their
extent is read: they go on to the next semicolon, or behind the end of a block of their own.
-/

namespace TableTypes.Sql.Parser

section
variable (d : Dialect) (g : Grammar)

/-- The number of tokens up to the semicolon that ends a statement; inside blocks, of which `depth`
are open, semicolons end nothing. -/
def statementLength (blocks : Bool) : Nat → List PlacedToken → Nat
  | _, [] => 0
  | depth, t :: rest =>
    if depth = 0 && t.token = .sign ";" then 0
    else
      let depth :=
        if !blocks then depth
        else if t.keyword = some "BEGIN" || t.keyword = some "CASE" then depth + 1
        else if t.keyword = some "END" then depth - 1
        else depth
      statementLength blocks depth rest + 1

/-- Passes over the rest of a statement. -/
def passOver (blocks : Bool) : Parser Statement :=
  fun ts => .ok (.other, ts.drop (statementLength blocks 0 ts))

/-- Reads a new type behind `TYPE`. -/
def typeStatement : Parser Statement := do
  let p ← path
  if ← keyword "AS" then
    if ← keyword "ENUM" then
      return .type p (.enum (← parenthesized (commaSeparatedUntil ")" name)))
    else if ← keyword "RANGE" then
      let options ← parenthesized (commaSeparatedUntil ")" do
        match ← oneOf ["SUBTYPE", "SUBTYPE_OPCLASS", "COLLATION", "CANONICAL", "SUBTYPE_DIFF",
          "MULTIRANGE_TYPE_NAME"] with
        | none => expected "range option keyword"
        | some word =>
          expectSign "="
          if word = "SUBTYPE" then return word ++ " = " ++ (← dataType d).render
          else return word ++ " = " ++ renderPath (← path))
      return .type p (.range options)
    else if ← sign "(" then
      if ← sign ")" then return .type p (.composite [])
      else
        let attributes ← commaSeparated do
          let n ← name
          let type ← dataType d
          let collation ← (do if ← keyword "COLLATE" then return some (← path) else return none)
          return (n, type, collation)
        expectSign ")"
        return .type p (.composite attributes)
    else expected "ENUM, RANGE, or '(' after AS"
  else if ← sign "(" then
    let options ← commaSeparatedUntil ")" do
      match ← oneOf ["INPUT", "OUTPUT", "RECEIVE", "SEND", "TYPMOD_IN", "TYPMOD_OUT", "ANALYZE",
        "SUBSCRIPT", "INTERNALLENGTH", "ALIGNMENT", "STORAGE", "LIKE", "CATEGORY", "PREFERRED",
        "DEFAULT", "ELEMENT", "DELIMITER", "COLLATABLE", "PASSEDBYVALUE"] with
      | none => expected "SQL definition option keyword"
      | some "PASSEDBYVALUE" => return "PASSEDBYVALUE"
      | some word =>
        expectSign "="
        let e ← expr g .ordinary
        return word ++ " = " ++ e.render
    expectSign ")"
    return .type p (.base options)
  else return .type p .none

/-- Reads a new domain behind `DOMAIN`. -/
def domainStatement : Parser Statement := do
  let p ← path
  expectKeyword "AS"
  let type ← dataType d
  let collation ← (do if ← keyword "COLLATE" then return some (← name) else return none)
  let default ← (do
    if ← keyword "DEFAULT" then return some (← expr g .ordinary) else return none)
  return .domain ⟨p, type, collation, default, ← many (tableConstraint d g)⟩

/-- Reads a comment on an object behind `COMMENT`. -/
def commentStatement : Parser Statement := do
  let ifExists ← keywords ["IF", "EXISTS"]
  expectKeyword "ON"
  match ← oneOf ["COLUMN", "DATABASE", "DOMAIN", "EXTENSION", "FUNCTION", "INDEX", "MATERIALIZED",
    "PROCEDURE", "ROLE", "SCHEMA", "SEQUENCE", "TABLE", "TYPE", "USER", "VIEW"] with
  | none => expected "comment object_type"
  | some word =>
    if word = "MATERIALIZED" then expectKeyword "VIEW"
    let object := if word = "MATERIALIZED" then "MATERIALIZED VIEW" else word
    let p ← path
    expectKeyword "IS"
    if ← keyword "NULL" then return .comment ⟨ifExists, object, p, none⟩
    else return .comment ⟨ifExists, object, p, some (← text d)⟩

/-- Reads how a view is run: its algorithm, definer and security. -/
def viewParameters : Parser String := do
  let algorithm ← (do
    if ← keyword "ALGORITHM" then
      expectSign "="
      return "ALGORITHM = " ++ (← expectOneOf ["UNDEFINED", "MERGE", "TEMPTABLE"]) ++ " "
    else return "")
  let definer ← (do
    if ← keyword "DEFINER" then
      expectSign "="
      let user ← name
      let host ← (do if ← sign "@" then return "@" ++ (← name).render else return "")
      return "DEFINER = " ++ user.render ++ host ++ " "
    else return "")
  let security ← (do
    if ← keywords ["SQL", "SECURITY"] then
      return "SQL SECURITY " ++ (← expectOneOf ["DEFINER", "INVOKER"]) ++ " "
    else return "")
  return algorithm ++ definer ++ security

/-- Reads a new view from `SECURE`, `MATERIALIZED` or `VIEW` on. -/
def viewStatement (orAlter orReplace temporary : Bool) (parameters : String) :
    Parser Statement := do
  let secure ← keyword "SECURE"
  let materialized ← keyword "MATERIALIZED"
  expectKeyword "VIEW"
  let first ← keywords ["IF", "NOT", "EXISTS"]
  let p ← path
  let behind ← onlyIf (!first) (keywords ["IF", "NOT", "EXISTS"])
  let columns ← (do
    if ← sign "(" then
      let columns ← commaSeparatedUntil ")" do
        let n ← name
        let _ ← many (columnOption d g)
        return n
      expectSign ")"
      return columns
    else return [])
  let options ← namedOptions g "WITH"
  let cluster ← (do
    if ← keyword "CLUSTER" then
      expectKeyword "BY"
      return [Piece.text (" CLUSTER BY" ++ renderColumnList (← optionalNameList))]
    else return [])
  expectKeyword "AS"
  let q ← g.query
  return .view ⟨orAlter, orReplace, parameters, secure, materialized, temporary, first || behind,
    behind, p, columns, options ++ cluster, q⟩

/-- Whether a view begins here. -/
def viewAhead : Parser Bool := do
  let words := [← peekKeyword 0, ← peekKeyword 1, ← peekKeyword 2]
  match words with
  | "MATERIALIZED" :: _ => return true
  | "VIEW" :: _ => return true
  | ["SECURE", "MATERIALIZED", "VIEW"] => return true
  | "SECURE" :: "VIEW" :: _ => return true
  | _ => return false

/-- Passes over a virtual table behind `VIRTUAL`. -/
def virtualTable : Parser Statement := do
  expectKeyword "TABLE"
  let _ ← keywords ["IF", "NOT", "EXISTS"]
  let _ ← path
  expectKeyword "USING"
  let _ ← name
  let _ ← optionalNameList
  return .other

/-- Reads what is created behind `CREATE`. -/
def createStatement : Parser Statement := do
  let readable := ["POLICY", "EXTERNAL", "TRIGGER", "SECRET", "USER"]
  let orReplace ← keywords ["OR", "REPLACE"]
  let orAlter ← keywords ["OR", "ALTER"]
  let extent ← (do
    let isLocal ← keyword "LOCAL"
    let isGlobal ← keyword "GLOBAL"
    return if isGlobal then ["GLOBAL"] else if isLocal then ["LOCAL"] else [])
  let transient ← keyword "TRANSIENT"
  let temporary := (← oneOf ["TEMP", "TEMPORARY"]).isSome
  let parameters ← viewParameters
  if ← keyword "TABLE" then
    let kind := extent ++ (if temporary then ["TEMPORARY"] else []) ++
      if transient then ["TRANSIENT"] else []
    return .table (← tableDefinition d g orReplace kind)
  else if ← viewAhead then viewStatement d g orAlter orReplace temporary parameters
  else if ← keyword "DOMAIN" then domainStatement d g
  else
    match ← oneOf (if d = .postgres then "FUNCTION" :: readable else readable) with
    | some _ => passOver true
    | none =>
      if ["FUNCTION", "MACRO"].contains (← peekKeyword 0) then
        expected "an object type after CREATE"
      else if ← keywords ["CONSTRAINT", "TRIGGER"] then passOver true
      else if orReplace then
        expected
          "[EXTERNAL] TABLE or [MATERIALIZED] VIEW or FUNCTION after CREATE OR REPLACE"
      else if ← keywords ["UNIQUE", "INDEX"] then passOver false
      else if ← keyword "TYPE" then typeStatement d g
      else if ← keyword "PROCEDURE" then passOver true
      else if ← keyword "VIRTUAL" then virtualTable
      else
        match ← oneOf ["EXTENSION", "INDEX", "SCHEMA", "DATABASE", "ROLE", "SEQUENCE",
          "CONNECTOR", "OPERATOR", "SERVER"] with
        | some _ => passOver false
        | none => expected "an object type after CREATE"

/-- The keywords that begin statements of which only the extent is read. -/
def otherStatements : List String :=
  ["ALTER", "ANALYZE", "ASSERT", "ATTACH", "BEGIN", "CACHE", "CALL", "CASE", "CLOSE", "COMMIT",
   "COPY", "DEALLOCATE", "DECLARE", "DELETE", "DENY", "DESC", "DESCRIBE", "DISCARD", "DROP",
   "END", "EXEC", "EXECUTE", "EXPLAIN", "EXPORT", "FETCH", "FLUSH", "GRANT", "IF", "INSERT",
   "KILL", "LOAD", "MERGE", "MSCK", "OPEN", "OPTIMIZE", "PRAGMA", "PREPARE", "PRINT", "RAISE",
   "RELEASE", "RENAME", "REPLACE", "RESET", "RETURN", "REVOKE", "ROLLBACK", "SAVEPOINT", "SET",
   "SHOW", "START", "TRUNCATE", "UNCACHE", "UNLOAD", "UPDATE", "USE", "VACUUM", "WHILE"]

/-- Reads a statement. -/
def statement : Parser Statement := do
  let word ← peekKeyword 0
  if ["SELECT", "WITH", "VALUES", "FROM"].contains word || (← peekSign 0 "(") then
    let _ ← g.query
    return .other
  else if ← keyword "CREATE" then createStatement d g
  else if ← onlyIf (d = .postgres) (keyword "COMMENT") then commentStatement d
  else if otherStatements.contains word ||
      (d = .postgres && ["LISTEN", "UNLISTEN", "NOTIFY"].contains word) ||
      (d = .mysql && ["LOCK", "UNLOCK"].contains word) then passOver false
  else expected "an SQL statement"

/-- Reads statements with semicolons between them; `pending` tells whether one must come next. The
fuel is the number of tokens. -/
def statementsFrom : Nat → Bool → Parser (List Statement)
  | 0, _ => return []
  | fuel + 1, pending => do
    if ← sign ";" then statementsFrom fuel false
    else
      match ← peek with
      | none => return []
      | some t =>
        if pending then
          if t.keyword = some "END" then return []
          else expected "end of statement"
        else
          let s ← statement d g
          return s :: (← statementsFrom fuel true)

end

end TableTypes.Sql.Parser

namespace TableTypes.Sql

/-- How deeply expressions and queries may be nested in a statement. -/
def maxDepth : Nat := 49

/-- The statements of a text. -/
def parse (d : Dialect) (text : String) : Except SyntaxError (List Statement) :=
  match tokens d text with
  | .error e => .error e
  | .ok ts =>
    (Parser.statementsFrom d (Parser.grammar d maxDepth) (2 * ts.length + 1) false ts).map
      fun (statements, _) => statements

end TableTypes.Sql
