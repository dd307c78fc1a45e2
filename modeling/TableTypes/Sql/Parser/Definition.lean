import TableTypes.Sql.Parser.Expr

/-!
# Reading the definition of a table

Columns with their options, constraints, and the clauses behind them.
-/

namespace TableTypes.Sql.Parser

/-- Reads when a constraint is checked. The fuel is the number of things to say. -/
def checkingFrom : Nat → Checking → Parser Checking
  | 0, c => return c
  | fuel + 1, c => do
    if ← onlyIf (c.deferrable.isNone) (keywords ["NOT", "DEFERRABLE"]) then
      checkingFrom fuel { c with deferrable := some false }
    else if ← onlyIf (c.deferrable.isNone) (keyword "DEFERRABLE") then
      checkingFrom fuel { c with deferrable := some true }
    else if ← onlyIf (c.immediate.isNone) (keyword "INITIALLY") then
      if ← keyword "DEFERRED" then checkingFrom fuel { c with immediate := some false }
      else if ← keyword "IMMEDIATE" then checkingFrom fuel { c with immediate := some true }
      else expected "one of DEFERRED or IMMEDIATE"
    else if ← onlyIf (c.enforced.isNone) (keyword "ENFORCED") then
      checkingFrom fuel { c with enforced := some true }
    else if ← onlyIf (c.enforced.isNone) (keywords ["NOT", "ENFORCED"]) then
      checkingFrom fuel { c with enforced := some false }
    else return c

/-- Reads when a constraint is checked. -/
def checking : Parser Checking :=
  checkingFrom 3 {}

/-- Reads what happens to a reference when its target changes. -/
def referentialAction : Parser String := do
  if ← keyword "RESTRICT" then return "RESTRICT"
  else if ← keyword "CASCADE" then return "CASCADE"
  else if ← keywords ["SET", "NULL"] then return "SET NULL"
  else if ← keywords ["NO", "ACTION"] then return "NO ACTION"
  else if ← keywords ["SET", "DEFAULT"] then return "SET DEFAULT"
  else expected "one of RESTRICT, CASCADE, SET NULL, NO ACTION or SET DEFAULT"

/-- Reads the clauses of a reference in any order, each at most once. The fuel is their number. -/
def referenceClauses : Nat → Reference → Parser Reference
  | 0, r => return r
  | fuel + 1, r => do
    if ← onlyIf (r.matching.isNone) (keyword "MATCH") then
      match ← oneOf ["FULL", "PARTIAL", "SIMPLE"] with
      | some word => referenceClauses fuel { r with matching := some word }
      | none => expected "one of FULL, PARTIAL or SIMPLE"
    else if ← onlyIf (r.onDelete.isNone) (keywords ["ON", "DELETE"]) then
      referenceClauses fuel { r with onDelete := some (← referentialAction) }
    else if ← onlyIf (r.onUpdate.isNone) (keywords ["ON", "UPDATE"]) then
      referenceClauses fuel { r with onUpdate := some (← referentialAction) }
    else return r

/-- Reads a reference behind its keyword. -/
def reference : Parser Reference := do
  let table ← path
  let columns ← optionalNameList
  let r ← referenceClauses 3 ⟨table, columns, none, none, none, {}⟩
  return { r with checking := ← checking }

/-- Reads whether a check is enforced. -/
def enforcement : Parser (Option Bool) := do
  if ← keyword "ENFORCED" then return some true
  else if ← keywords ["NOT", "ENFORCED"] then return some false
  else return none

section
variable (d : Dialect) (g : Grammar)

/-- Reads a number with an optional sign as an expression. -/
def numberExpr : Parser Expr := do
  let number : Parser Expr := do
    let before ← get
    match ← value d with
    | .number digits isLong => return .literal (.number digits isLong)
    | .placeholder n => return .literal (.placeholder n)
    | _ =>
      set before
      expected "literal number"
  if ← sign "+" then return .unary "+" (← number)
  else if ← sign "-" then return .unary "-" (← number)
  else number

/-- Reads the options of a sequence, which come in a fixed order. -/
def sequenceOptions : Parser (List SequenceOption) := do
  let withNumber (words : String) : Parser (List SequenceOption) := do
    return [⟨words, some (← numberExpr d)⟩]
  let increment ← (do
    if ← keywords ["INCREMENT", "BY"] then withNumber "INCREMENT BY"
    else if ← keyword "INCREMENT" then withNumber "INCREMENT"
    else return [])
  let least ← (do
    if ← keyword "MINVALUE" then withNumber "MINVALUE"
    else if ← keywords ["NO", "MINVALUE"] then return [⟨"NO MINVALUE", none⟩]
    else return [])
  let greatest ← (do
    if ← keyword "MAXVALUE" then withNumber "MAXVALUE"
    else if ← keywords ["NO", "MAXVALUE"] then return [⟨"NO MAXVALUE", none⟩]
    else return [])
  let start ← (do
    if ← keywords ["START", "WITH"] then withNumber "START WITH"
    else if ← keyword "START" then withNumber "START"
    else return [])
  let cache ← (do if ← keyword "CACHE" then withNumber "CACHE" else return [])
  let cycle ← (do
    if ← keywords ["NO", "CYCLE"] then return [⟨"NO CYCLE", none⟩]
    else if ← keyword "CYCLE" then return [⟨"CYCLE", none⟩]
    else return [])
  return increment ++ least ++ greatest ++ start ++ cache ++ cycle

/-- Reads the value of an option of a column. In parentheses it ends with them. -/
def optionExpr : Parser Expr := do
  if ← peekSign 0 "(" then prefixExpr d g .ordinary else expr g .columnOption

/-- Reads a condition in parentheses. -/
def condition : Parser Expr :=
  parenthesized (expr g .ordinary)

/-- Reads the options of an identity in parentheses if they stand here. -/
def identityOptions : Parser (List SequenceOption) := do
  if ← peekSign 0 "(" then parenthesized (sequenceOptions d) else return []

/-- Reads what stands behind `GENERATED`. -/
def generatedOption : Parser (Option ColumnOption) := do
  if ← keywords ["ALWAYS", "AS", "IDENTITY"] then
    return some (.identity true (← identityOptions d))
  else if ← keywords ["BY", "DEFAULT", "AS", "IDENTITY"] then
    return some (.identity false (← identityOptions d))
  else if ← keywords ["ALWAYS", "AS"] then
    if ← peekSign 0 "(" then
      let e ← condition g
      if ← keyword "STORED" then return some (.computed true e (some "STORED"))
      else if d = .postgres then expected "STORED"
      else if ← keyword "VIRTUAL" then return some (.computed true e (some "VIRTUAL"))
      else return some (.computed true e none)
    else return none
  else return none

/-- Reads what stands behind `AS`. -/
def computedOption : Parser ColumnOption := do
  let e ← condition g
  return .computed false e (← oneOf ["STORED", "VIRTUAL"])

/-- Reads an option of a column that begins with keywords of one dialect. In other dialects some of
the keywords are passed over, and what follows is read as the rest of this list allows. -/
def dialectOption : Parser (Option ColumnOption) := do
  if (← keyword "AUTO_INCREMENT") && d = .mysql then return some (.keyword "AUTO_INCREMENT")
  else if (← keyword "AUTOINCREMENT") && d = .sqlite then return some (.keyword "AUTOINCREMENT")
  else if (← keyword "ASC") && d = .sqlite then return some (.keyword "ASC")
  else if (← keyword "DESC") && d = .sqlite then return some (.keyword "DESC")
  else if (← keywords ["ON", "UPDATE"]) && d = .mysql then
    return some (.onUpdate (← optionExpr d g))
  else if ← keyword "GENERATED" then generatedOption d g
  else if (← keyword "AS") && d ≠ .postgres then return some (← computedOption g)
  else if (← keyword "SRID") && d = .mysql then return some (.srid (← optionExpr d g))
  else
    let _ ← keyword "IDENTITY"
    if ← onlyIf (d = .sqlite) (keywords ["ON", "CONFLICT"]) then
      return some (.onConflict (← expectOneOf ["ROLLBACK", "ABORT", "FAIL", "IGNORE", "REPLACE"]))
    else if ← keyword "INVISIBLE" then return some .invisible
    else return none

/-- Reads the text of a comment. -/
def commentText : Parser String :=
  fun ts =>
    match ts with
    | ⟨.constant .single s, _, _⟩ :: rest => .ok (s, rest)
    | ⟨.constant (.dollar _) s, _, _⟩ :: rest => .ok (s, rest)
    | _ => .error (.expected "string literal" ts.head?)

/-- Reads an option of a column if one stands here. -/
def columnOption : Parser (Option ColumnOption) := do
  if ← keywords ["CHARACTER", "SET"] then return some (.characterSet (← path))
  else if ← keyword "COLLATE" then return some (.collation (← path))
  else if ← keywords ["NOT", "NULL"] then return some .notNull
  else if ← keyword "COMMENT" then return some (.comment (← commentText))
  else if ← keyword "NULL" then return some .null
  else if ← keyword "DEFAULT" then return some (.default (← optionExpr d g))
  else if ← keywords ["PRIMARY", "KEY"] then return some (.primaryKey (← checking))
  else if ← keyword "UNIQUE" then return some (.unique (← checking))
  else if ← keyword "REFERENCES" then return some (.references (← reference))
  else if ← keyword "CHECK" then
    let e ← condition g
    return some (.check e (← enforcement))
  else dialectOption d g

/-- Reads an option of a column, perhaps with a name, if one stands here. -/
def namedColumnOption : Parser (Option (Option Name × ColumnOption)) := do
  if ← keyword "CONSTRAINT" then
    let n ← name
    match ← columnOption d g with
    | some option => return some (some n, option)
    | none => expected "constraint details after CONSTRAINT <name>"
  else return (← columnOption d g).map fun option => (none, option)

/-- Whether a column has no type here: in SQLite an option, or no word at all, may follow its
name. -/
def typeIsMissing : Parser Bool := do
  match d, ← peek with
  | .sqlite, some t =>
    return !t.token.isWord || ["CONSTRAINT", "PRIMARY", "NOT", "UNIQUE", "CHECK", "DEFAULT",
      "COLLATE", "REFERENCES", "GENERATED", "AS"].contains (t.keyword.getD "")
  | .sqlite, none => return true
  | _, _ => return false

/-- Reads a column of a table. -/
def column : Parser ColumnDefinition := do
  let n ← name
  let type ← (do if ← typeIsMissing d then return .unspecified else dataType d)
  return ⟨n, type, ← many (namedColumnOption d g)⟩

/-- Reads a column of a key. -/
def keyColumn : Parser KeyColumn := do
  let e ← expr g .ordinary
  let operatorClass ← (do
    if ["ASC", "DESC", "NULLS", "WITH"].contains (← peekKeyword 0) then return none
    else attempt name)
  return ⟨e, operatorClass, ← direction⟩

/-- Reads the columns of a key in parentheses. -/
def keyColumns : Parser (List KeyColumn) := do
  if ← sign "(" then
    let columns ← commaSeparated (keyColumn g)
    expectSign ")"
    return columns
  else expected "a list of columns in parentheses"

/-- Reads the kind of an index behind `USING`. -/
def indexKind : Parser String := do
  if ← keyword "USING" then return " USING " ++ (← name).render else return ""

/-- Reads the name and the kind of an index. -/
def indexHead : Parser String := do
  let n ← attempt name
  return spaced (n.map Name.render) ++ (← indexKind)

/-- Reads the options of an index and when its constraint is checked. -/
def indexTail : Parser String := do
  let options ← many do
    let kind ← indexKind
    if !kind.isEmpty then return some kind
    else if ← keyword "COMMENT" then return some (" COMMENT '" ++ (← text d) ++ "'")
    else return none
  return String.join options ++ (← checking).render

/-- Reads `KEY` or `INDEX`. -/
def indexWord : Parser String := do
  return spaced (← oneOf ["KEY", "INDEX"])

/-- Reads a constraint of a table if one stands here. -/
def tableConstraint : Parser (Option TableConstraint) := do
  let before ← get
  let constraintName ← (do if ← keyword "CONSTRAINT" then return some (← name) else return none)
  let start ← get
  if ← keyword "UNIQUE" then
    let word ← indexWord
    if d ≠ .mysql && !word.isEmpty then
      expected "\x60index_name\x60 or \x60(column_name [, ...])\x60"
    else
      let nulls ← (do
        if ← keywords ["NULLS", "NOT", "DISTINCT"] then return " NULLS NOT DISTINCT"
        else if ← keywords ["NULLS", "DISTINCT"] then return " NULLS DISTINCT"
        else return "")
      let head ← indexHead
      let columns ← keyColumns g
      return some (.unique constraintName (nulls ++ word ++ head) columns (← indexTail d))
  else if ← keyword "PRIMARY" then
    expectKeyword "KEY"
    let head ← indexHead
    let columns ← keyColumns g
    return some (.primaryKey constraintName head columns (← indexTail d))
  else if ← keyword "FOREIGN" then
    expectKeyword "KEY"
    let n ← attempt name
    let columns ← nameList
    expectKeyword "REFERENCES"
    return some (.foreignKey constraintName (spaced (n.map Name.render)) columns (← reference))
  else if ← keyword "CHECK" then
    let e ← condition g
    return some (.check constraintName e (← enforcement))
  else if d = .mysql && constraintName.isNone &&
      ["INDEX", "KEY"].contains (← peekKeyword 0) then
    let word := ((← oneOf ["INDEX", "KEY"]).getD "")
    let n ← (do if (← peekKeyword 0) = "USING" then return none else attempt name)
    let kind ← indexKind
    let columns ← keyColumns g
    return some (.index (word ++ spaced (n.map Name.render) ++ kind) columns (← indexTail d))
  else if d = .mysql && ["FULLTEXT", "SPATIAL"].contains (← peekKeyword 0) then
    let word := ((← oneOf ["FULLTEXT", "SPATIAL"]).getD "")
    match constraintName, start with
    | some n, t :: _ =>
      fail (.expected "FULLTEXT or SPATIAL option without constraint name"
        (some ⟨.word n.render none, t.position, none⟩))
    | _, _ =>
      let kind ← indexWord
      let n ← attempt name
      let columns ← keyColumns g
      return some (.index (word ++ kind ++ spaced (n.map Name.render)) columns "")
  else if constraintName.isSome then expected "PRIMARY, UNIQUE, FOREIGN, or CHECK"
  else
    set before
    return none

/-- Reads the columns and constraints of a table behind the opening parenthesis; the fuel is the
number of tokens. -/
def elementsFrom : Nat → Parser (List ColumnDefinition × List TableConstraint)
  | 0 => expected "column name or constraint definition"
  | fuel + 1 => do
    let (columns, constraints) ← (do
      match ← tableConstraint d g with
      | some c => return ([], [c])
      | none =>
        if ((← peek).map fun t => t.token.isWord).getD false then return ([← column d g], [])
        else expected "column name or constraint definition")
    if ← sign "," then
      let (moreColumns, moreConstraints) ← elementsFrom fuel
      return (columns ++ moreColumns, constraints ++ moreConstraints)
    else if ← sign ")" then return (columns, constraints)
    else expected "',' or ')' after column definition"

/-- Reads the columns and constraints of a table, if there are any. -/
def elements : Parser (List ColumnDefinition × List TableConstraint) := do
  if ← sign "(" then
    if ← sign ")" then return ([], [])
    else fun ts => elementsFrom d g (ts.length + 1) ts
  else return ([], [])

/-- Reads options `name = value` in parentheses behind a keyword. -/
def namedOptions (word : String) : Parser (List Piece) := do
  if ← keyword word then
    let options ← parenthesized (commaSeparatedUntil ")" do
      let n ← name
      expectSign "="
      return [.text (n.render ++ " = "), .expr (← expr g .ordinary)])
    if options.isEmpty then return []
    else return .text (" " ++ word ++ " (") :: joinPieces ", " options ++ [.text ")"]
  else return []

/-- The options of a table that are written as keywords and a value. -/
def valueOptions : List (List String) :=
  [["DEFAULT", "CHARSET"], ["CHARSET"], ["DEFAULT", "CHARACTER", "SET"], ["CHARACTER", "SET"],
   ["DEFAULT", "COLLATE"], ["COLLATE"], ["DATA", "DIRECTORY"], ["INDEX", "DIRECTORY"],
   ["KEY_BLOCK_SIZE"], ["ROW_FORMAT"], ["PACK_KEYS"], ["STATS_AUTO_RECALC"],
   ["STATS_PERSISTENT"], ["STATS_SAMPLE_PAGES"], ["DELAY_KEY_WRITE"], ["COMPRESSION"],
   ["ENCRYPTION"], ["MAX_ROWS"], ["MIN_ROWS"], ["AUTOEXTEND_SIZE"], ["AVG_ROW_LENGTH"],
   ["CHECKSUM"], ["CONNECTION"], ["ENGINE_ATTRIBUTE"], ["PASSWORD"],
   ["SECONDARY_ENGINE_ATTRIBUTE"], ["INSERT_METHOD"], ["AUTO_INCREMENT"]]

/-- Reads names in parentheses behind an optional opening one. -/
def listInParentheses : Parser (List Name) := do
  if ← peekSign 0 "(" then parenthesized (commaSeparatedUntil ")" name) else return []

/-- Takes a word, for the name of an engine or a tablespace. -/
def plainWord : Parser String :=
  fun ts =>
    match ts with
    | ⟨.word s _, _, _⟩ :: rest => .ok (s, rest)
    | _ => .error (.expected "Token::Word" ts.head?)

/-- Reads an option of a table if one stands here. -/
def plainOption : Parser (Option Piece) := do
  if ← keywords ["START", "TRANSACTION"] then return some (.text " START TRANSACTION")
  else if ← keyword "COMMENT" then
    let equals ← sign "="
    let s ← (fun ts =>
      match ts with
      | ⟨.constant .single s, _, _⟩ :: rest => .ok (s, rest)
      | t :: _ =>
        .error (.malformed ("Expected: Token::SingleQuotedString, found: " ++ t.token.text) none)
      | [] => .error (.expected "Token::SingleQuotedString" none) : Parser String)
    return some (.text (" COMMENT " ++ (if equals then "= " else "") ++ "'" ++ s ++ "'"))
  else if ← keyword "ENGINE" then
    let _ ← sign "="
    let engine ← plainWord
    let parameters ← listInParentheses
    let shown := if parameters.isEmpty then "" else "(" ++ commas (parameters.map Name.render) ++ ")"
    return some (.text (" ENGINE = " ++ engine ++ shown))
  else if ← keyword "TABLESPACE" then
    let _ ← sign "="
    let space ← (fun ts =>
      match ts with
      | ⟨.constant .single s, _, _⟩ :: rest => .ok (s, rest)
      | _ => plainWord ts : Parser String)
    let storage ← (do
      if ← keyword "STORAGE" then
        let _ ← sign "="
        let word := Unicode.uppercase (← plainWord)
        if word = "DISK" || word = "MEMORY" then return " STORAGE " ++ word
        else expected "Storage type (DISK or MEMORY)"
      else return "")
    return some (.text (" TABLESPACE " ++ space ++ storage))
  else if ← keyword "UNION" then
    let _ ← sign "="
    if ← peekSign 0 "(" then
      return some (.text (" UNION = (" ++ commas ((← listInParentheses).map Name.render) ++ ")"))
    else expected "Token::LParen"
  else
    match ← valueOptions.findM? keywords with
    | none => return none
    | some words =>
      let _ ← sign "="
      let shown ← (do
        match ← attempt (value d) with
        | some v => return v.render
        | none => return (← name).render)
      return some (.text (" " ++ " ".intercalate words ++ " = " ++ shown))

/-- Reads options of a table, with or without commas between them. -/
def plainOptions : Parser (List Piece) :=
  many do
    match ← plainOption d with
    | none => return none
    | some option =>
      let _ ← sign ","
      return some option

/-- Reads what happens to the rows of a temporary table. -/
def onCommit : Parser (List Piece) := do
  if ← keywords ["ON", "COMMIT"] then
    if ← keywords ["DELETE", "ROWS"] then return [.text " ON COMMIT DELETE ROWS"]
    else if ← keywords ["PRESERVE", "ROWS"] then return [.text " ON COMMIT PRESERVE ROWS"]
    else if ← keyword "DROP" then return [.text " ON COMMIT DROP"]
    else expected "Expecting DELETE ROWS, PRESERVE ROWS or DROP"
  else return []

/-- Reads what a new table is sorted by. -/
def sortedBy : Parser (List Piece) := do
  if ← keywords ["ORDER", "BY"] then
    if ← sign "(" then
      let es ← commaSeparatedUntil ")" (expr g .ordinary)
      expectSign ")"
      return .text " ORDER BY (" :: commaPieces es ++ [.text ")"]
    else return [.text " ORDER BY ", .expr (← expr g .ordinary)]
  else return []

/-- Reads a new table behind `TABLE`. -/
def tableDefinition (orReplace : Bool) (kind : List String) : Parser TableDefinition := do
  let ifNotExists ← keywords ["IF", "NOT", "EXISTS"]
  let table ← path
  let cluster ← (do
    if ← keywords ["ON", "CLUSTER"] then
      return [Piece.text (" ON CLUSTER " ++ (← name).render)]
    else return [])
  let model ← (do
    match ← oneOf ["LIKE", "ILIKE", "CLONE"] with
    | some "CLONE" => return some ("CLONE", ← path)
    | some _ => return some ("LIKE", ← path)
    | none => return none)
  let (columns, constraints) ← elements d g
  let withoutRowid ← (do
    if ← keywords ["WITHOUT", "ROWID"] then return [Piece.text " WITHOUT ROWID"] else return [])
  let inherits ← (do
    if ← keyword "INHERITS" then
      if ← sign "(" then
        let parents ← commaSeparated path
        expectSign ")"
        return [Piece.text (" INHERITS (" ++ commas (parents.map renderPath) ++ ")")]
      else expected "a list of columns in parentheses"
    else return [])
  let options ← namedOptions g "WITH"
  let partition ← (do
    if ← onlyIf (d = .postgres) (keywords ["PARTITION", "BY"]) then
      return [Piece.text " PARTITION BY ", .expr (← expr g .ordinary)]
    else return [])
  let plain ← if options.isEmpty then plainOptions d else pure []
  let order ← sortedBy g
  let commit ← onCommit
  let strict ← (do if ← keyword "STRICT" then return [Piece.text " STRICT"] else return [])
  let query ← (do
    if ← keyword "AS" then return some (← g.query)
    else if d ≠ .postgres && (← peekKeyword 0) = "SELECT" then return some (← g.query)
    else return none)
  return ⟨orReplace, kind, ifNotExists, table, columns, constraints, model,
    cluster ++ withoutRowid ++ options ++ plain ++ order ++ inherits ++ partition ++ commit ++
      strict, query⟩

end

end TableTypes.Sql.Parser
