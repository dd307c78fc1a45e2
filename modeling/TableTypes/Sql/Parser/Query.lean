import TableTypes.Sql.Parser.Expr

/-!
# Reading queries

Selections, their sources and joins, and what stands around them. `grammar` ties the readers of
expressions and queries together, down to a bounded depth.
-/

namespace TableTypes.Sql.Parser

section
variable (d : Dialect) (g : Grammar)

/-- Reads an alias, which may go without `AS` if `allowed` says so of its keyword. -/
def newName (allowed : String → Bool) : Parser (Option Name) := do
  let explicit ← keyword "AS"
  fun ts =>
    let missing : Except SyntaxError (Option Name × List PlacedToken) :=
      if explicit then .error (.expected "an identifier after AS" ts.head?) else .ok (none, ts)
    match ts with
    | ⟨.word s quote, _, word⟩ :: rest =>
      if explicit || allowed (word.getD "") then .ok (some ⟨s, quote⟩, rest) else missing
    | ⟨.constant .single s, _, _⟩ :: rest => .ok (some ⟨s, some '\''⟩, rest)
    | ⟨.constant .double s, _, _⟩ :: rest => .ok (some ⟨s, some '"'⟩, rest)
    | _ => missing

/-- Reads the alias of a source, with names for its columns. -/
def sourceAlias : Parser (List Piece) := do
  match ← newName (canNameSource d) with
  | none => return []
  | some n =>
    let columns ← (do
      if ← sign "(" then
        let columns ← commaSeparated do
          let n ← name
          let type ← attempt (dataType d)
          return n.render ++ spaced (type.map DataType.render)
        expectSign ")"
        return " (" ++ commas columns ++ ")"
      else return "")
    return [.text (" AS " ++ n.render ++ columns)]

/-- Reads a query as a source behind its opening parenthesis. -/
def derivedSource : Parser (List Piece) := do
  let q ← g.query
  expectSign ")"
  return .text "(" :: .query q :: .text ")" :: (← sourceAlias d)

/-- Reads what restricts a join. -/
def joinConstraint : Parser (List Piece) := do
  if ← keyword "ON" then return [.text " ON ", .expr (← expr g .ordinary)]
  else if ← keyword "USING" then
    let columns ← parenthesized (commaSeparated path)
    return [.text (" USING(" ++ commas (columns.map renderPath) ++ ")")]
  else return []

/-- Reads the keywords of a join if one stands here: their text, and whether a constraint may
follow. -/
def joinKeywords : Parser (Option (String × Bool)) := do
  if ← keyword "CROSS" then
    match ← oneOf ["JOIN", "APPLY"] with
    | some word => return some ("CROSS " ++ word, d = .mysql && word = "JOIN")
    | none => expected "JOIN or APPLY after CROSS"
  else if ← keyword "OUTER" then
    expectKeyword "APPLY"
    return some ("OUTER APPLY", false)
  else
    let natural ← keyword "NATURAL"
    let start := if natural then "NATURAL " else ""
    if ← keyword "JOIN" then return some (start ++ "JOIN", !natural)
    else if ← keyword "INNER" then
      expectKeyword "JOIN"
      return some (start ++ "INNER JOIN", !natural)
    else if ← keyword "FULL" then
      let _ ← keyword "OUTER"
      expectKeyword "JOIN"
      return some (start ++ "FULL JOIN", !natural)
    else if ← keyword "STRAIGHT_JOIN" then return some (start ++ "STRAIGHT_JOIN", !natural)
    else
      match ← oneOf ["LEFT", "RIGHT"] with
      | some side =>
        match ← oneOf ["OUTER", "SEMI", "ANTI"] with
        | some word =>
          expectKeyword "JOIN"
          return some (start ++ side ++ " " ++ word ++ " JOIN", !natural)
        | none =>
          if ← keyword "JOIN" then return some (start ++ side ++ " JOIN", !natural)
          else expected ("OUTER, SEMI, ANTI or JOIN after " ++ side)
      | none => if natural then expected "a join type after NATURAL" else return none

/-- Reads the joins behind a source, given a reader of sources. -/
def joins (source : Parser (List Piece)) : Parser (List Piece) := do
  let pieces ← many do
    match ← joinKeywords d with
    | none => return none
    | some (words, constrained) =>
      let right ← source
      let constraint ← if constrained then joinConstraint g else pure []
      return some (.text (" " ++ words ++ " ") :: right ++ constraint)
  return pieces.flatten

/-- Reads which part of a table is taken as a sample, if only a part is. -/
def sample : Parser (List Piece) := do
  match ← oneOf ["TABLESAMPLE", "SAMPLE"] with
  | none => return []
  | some word =>
    let method := spaced (← oneOf ["BERNOULLI", "ROW", "SYSTEM", "BLOCK"])
    let isOpen ← sign "("
    let share ← expr g .ordinary
    let unit := spaced (← oneOf ["ROWS", "PERCENT"])
    if isOpen then expectSign ")"
    let seed ← (do
      match ← oneOf ["REPEATABLE", "SEED"] with
      | none => return ""
      | some word => return " " ++ word ++ " (" ++ (← parenthesized (value d)).render ++ ")")
    let start := if isOpen then " (" else " "
    return [.text (" " ++ word ++ method ++ start), .expr share,
      .text (unit ++ (if isOpen then ")" else "") ++ seed)]

/-- Reads a table as a source: its name, and the pieces behind it. -/
def tableSource : Parser (Path × List Piece) := do
  let p ← path
  let partitions ← (do
    if d = .mysql then
      if ← keyword "PARTITION" then
        let names ← parenthesized (commaSeparated name)
        return [Piece.text (" PARTITION (" ++ commas (names.map Name.render) ++ ")")]
      else return []
    else return [])
  let arguments ← (do
    if ← sign "(" then return .text "(" :: (← argumentList d g .ordinary) ++ [Piece.text ")"]
    else return [])
  let ordinality ← (do
    if ← keywords ["WITH", "ORDINALITY"] then return [Piece.text " WITH ORDINALITY"]
    else return [])
  let as_ ← sourceAlias d
  let hint ← (do
    if d = .mysql then
      match ← attempt do
        let word ← expectOneOf ["USE", "IGNORE", "FORCE"]
        let kind ← expectOneOf ["INDEX", "KEY"]
        let purpose ← (do
          if ← keyword "FOR" then
            if ← keyword "JOIN" then return " FOR JOIN"
            else if ← keywords ["ORDER", "BY"] then return " FOR ORDER BY"
            else
              expectKeyword "GROUP"
              expectKeyword "BY"
              return " FOR GROUP BY"
          else return "")
        let names ← parenthesized (commaSeparatedUntil ")" name)
        return " " ++ word ++ " " ++ kind ++ purpose ++ " (" ++
          commas (names.map Name.render) ++ ")" with
      | some s => return [Piece.text s]
      | none => return []
    else return [])
  return (p, partitions ++ arguments ++ ordinality ++ as_ ++ hint ++ (← sample d g))

/-- Reads a source other than the name of a table, if one stands here; `nested` reads sources in
parentheses. -/
def specialSource (nested : Parser (List Piece × Bool)) : Parser (Option (List Piece)) := do
  if ← keyword "LATERAL" then
    if ← sign "(" then return some (.text "LATERAL " :: (← derivedSource d g))
    else
      let p ← path
      expectSign "("
      let arguments ← argumentList d g .ordinary
      return some (.text ("LATERAL " ++ renderPath p ++ "(") :: arguments ++ .text ")" ::
        (← sourceAlias d))
  else if ← keyword "TABLE" then
    let e ← parenthesized (expr g .ordinary)
    return some (.text "TABLE(" :: .expr e :: .text ")" :: (← sourceAlias d))
  else if ← sign "(" then
    match ← attempt (derivedSource d g) with
    | some pieces => return some pieces
    | none =>
      let (pieces, isJoin) ← nested
      if isJoin then
        expectSign ")"
        return some (.text "(" :: pieces ++ .text ")" :: (← sourceAlias d))
      else expected "joined table"
  else if d = .postgres && (← peekKeyword 0) = "UNNEST" then
    skip
    let es ← parenthesized (commaSeparated (expr g .ordinary))
    let ordinality ← (do
      if ← keywords ["WITH", "ORDINALITY"] then return " WITH ORDINALITY" else return "")
    return some (.text "UNNEST(" :: commaPieces es ++ .text (")" ++ ordinality) ::
      (← sourceAlias d))
  else return none

/-- Reads a source without its joins, in pieces, and whether it is a join in parentheses; the fuel
bounds the depth of parentheses. -/
def sourceFrom : Nat → Parser (List Piece × Bool)
  | 0 => fail .tooDeep
  | fuel + 1 => do
    let nested : Parser (List Piece × Bool) := do
      let (first, isJoin) ← sourceFrom fuel
      let more ← joins d g (do return (← sourceFrom fuel).1)
      return (first ++ more, isJoin || !more.isEmpty)
    let open_ ← peekSign 0 "("
    match ← specialSource d g nested with
    | some pieces =>
      let isQuery := match pieces with
        | .text "(" :: .query _ :: _ => true
        | _ => false
      return (pieces, open_ && !isQuery)
    | none =>
      let (p, pieces) ← tableSource d g
      return (.text (renderPath p) :: pieces, false)

/-- Reads a source with its joins. -/
def source : Parser Source := do
  let depth := 50
  let isSpecial := ["LATERAL", "TABLE", "UNNEST"].contains (← peekKeyword 0) || (← peekSign 0 "(")
  let more : Parser (List Piece) := joins d g (do return (← sourceFrom d g depth).1)
  if isSpecial then
    let (pieces, _) ← sourceFrom d g depth
    return .other pieces (← more)
  else
    let (p, pieces) ← tableSource d g
    return .table p pieces (← more)

/-- Reads an item of a selection. -/
def selectItem : Parser SelectItem := do
  match ← wildcardOr g .ordinary with
  | .inl p => return .wildcard p
  | .inr e =>
    match e with
    | .name [⟨s, none⟩] =>
      if Unicode.lowercase s = "from" then refuse ("Expected an expression, found: " ++ s)
      else return .expr e (← newName canNameItem)
    | e => return .expr e (← newName canNameItem)

/-- Reads `DISTINCT` with the expressions behind its `ON`. -/
def quantifier : Parser (List Piece) := do
  let all ← keyword "ALL"
  if ← keyword "DISTINCT" then
    if all then refuse "Cannot specify both ALL and DISTINCT"
    else if ← keyword "ON" then
      let es ← parenthesized (commaSeparatedUntil ")" (expr g .ordinary))
      return .text " DISTINCT ON (" :: commaPieces es ++ [.text ")"]
    else return [.text " DISTINCT"]
  else return []

/-- Reads clauses that each begin with keywords and list expressions. -/
def listClause (words : List String) (item : Parser (List Piece)) : Parser (List Piece) := do
  if ← keywords words then
    return .text (" " ++ " ".intercalate words ++ " ") :: joinPieces ", " (← commaSeparated item)
  else return []

/-- Reads the new table that the rows of a selection go into, if there is one. -/
def intoTable : Parser (Option Piece) := do
  if ← keyword "INTO" then
    let temporary := if (← oneOf ["TEMP", "TEMPORARY"]).isSome then "TEMPORARY " else ""
    let unlogged := if ← keyword "UNLOGGED" then "UNLOGGED " else ""
    let table := if ← keyword "TABLE" then "TABLE " else ""
    return some (.text (" INTO " ++ temporary ++ unlogged ++ table ++ renderPath (← path)))
  else return none

/-- Reads a selection. -/
def select : Parser Select := do
  expectKeyword "SELECT"
  let distinct ← quantifier g
  let top ← (do
    if ← keyword "TOP" then
      if ← peekSign 0 "(" then
        let e ← parenthesized (expr g .ordinary)
        return [Piece.text " TOP (", .expr e, .text ")"]
      else return [Piece.text (" TOP " ++ toString (← natural))]
    else return [])
  let isEmpty := d = .postgres && (← peekKeyword 0) = "FROM"
  let items ← if isEmpty then pure [] else commaSeparated (selectItem g)
  let into ← intoTable
  let sources ← (do if ← keyword "FROM" then commaSeparated (source d g) else return [])
  let condition ← (do
    if ← keyword "WHERE" then return some (← expr g .ordinary) else return none)
  let expression : Parser (List Piece) := do return [.expr (← expr g .ordinary)]
  let group ← (do
    if ← keywords ["GROUP", "BY", "ALL"] then return [Piece.text " GROUP BY ALL"]
    else
      listClause ["GROUP", "BY"] do
        if ← keywords ["GROUPING", "SETS"] then
          let e ← expression
          return .text "GROUPING SETS " :: e
        else if (← peekSign 0 "(") && (← peekSign 1 ")") then
          skip
          skip
          return [.text "()"]
        else expression)
  let rollup ← (do
    if ← keywords ["WITH", "ROLLUP"] then return [Piece.text " WITH ROLLUP"] else return [])
  let having ← (do
    if ← keyword "HAVING" then return [Piece.text " HAVING ", .expr (← expr g .ordinary)]
    else return [])
  let windows ← listClause ["WINDOW"] do
    let n ← name
    expectKeyword "AS"
    if ← sign "(" then
      return .text (n.render ++ " AS (") :: (← window g .ordinary) ++ [.text ")"]
    else return [.text (n.render ++ " AS " ++ (← name).render)]
  let clauses := group ++ rollup ++ having ++ windows
  match into with
  | none => return .mk (distinct ++ top) items sources condition clauses
  | some target => return .into (distinct ++ top) items [target] sources condition clauses

/-- Reads a row of values in parentheses. -/
def row : Parser (List Piece) := do
  let es ← parenthesized (commaSeparatedUntil ")" (expr g .ordinary))
  return .text "(" :: commaPieces es ++ [.text ")"]

/-- Reads the name behind `TABLE`: three tokens, of which the second may be a period. -/
def tableBody : Parser (List Piece) :=
  fun ts =>
    match ts with
    | ⟨.word schema _, _, _⟩ :: ⟨.sign ".", _, _⟩ :: ⟨.word table _, _, _⟩ :: rest =>
      .ok ([.text ("TABLE " ++ schema ++ "." ++ table)], rest)
    | ⟨.word _ _, _, _⟩ :: ⟨.sign ".", _, _⟩ :: rest => .error (.expected "Table name" rest.head?)
    | ⟨.word table _, _, _⟩ :: rest => .ok ([.text ("TABLE " ++ table)], rest.drop 2)
    | _ => .error (.expected "Table name" ts.head?)

/-- Reads the body of a query up to the first set operation. -/
def simpleBody : Parser QueryBody := do
  if (← peekKeyword 0) = "SELECT" then return .select (← select d g)
  else if ← sign "(" then
    let q ← g.query
    expectSign ")"
    return .nested q
  else if ← keyword "VALUES" then
    let rows ← commaSeparated do
      let start ← (do
        if ← keyword "ROW" then return [Piece.text "ROW"] else return [])
      return start ++ (← row g)
    return .rows (.text "VALUES " :: joinPieces ", " rows)
  else if ← keyword "TABLE" then return .rows (← tableBody)
  else expected "SELECT, VALUES, or a subquery in the query body"

/-- Reads set operations behind a body; `right` reads their right sides, and the fuel is the number
of tokens. -/
def operations (words : List String) (right : String → Parser QueryBody) :
    Nat → QueryBody → Parser QueryBody
  | 0, body => return body
  | fuel + 1, body => do
    match ← oneOf words with
    | none => return body
    | some word =>
      let how ← (do
        match ← oneOf ["ALL", "DISTINCT"] with
        | some w => return " " ++ w
        | none => return "")
      operations words right fuel (.operation body (word ++ how) (← right word))

/-- Reads the body of a query. An intersection binds more strongly than the other operations. -/
def queryBody : Parser QueryBody := do
  let simple := simpleBody d g
  let strong : Parser QueryBody := do
    let first ← simple
    operations ["INTERSECT"] (fun _ => simple) (← get).length first
  let first ← simple
  operations ["UNION", "EXCEPT", "MINUS", "INTERSECT"]
    (fun word => if word = "INTERSECT" then simple else strong) (← get).length first

/-- Reads a table defined before a query. -/
def definition : Parser (List Piece) := do
  let n ← name
  let columns ← (do
    if ← keyword "AS" then return ""
    else
      let columns ← (do if ← peekSign 0 "(" then nameList else return [])
      expectKeyword "AS"
      return renderColumnList columns)
  let kept ← (do
    if d = .postgres then
      if ← keyword "MATERIALIZED" then return "MATERIALIZED "
      else if ← keywords ["NOT", "MATERIALIZED"] then return "NOT MATERIALIZED "
      else return ""
    else return "")
  let q ← parenthesized g.query
  return [.text (n.render ++ columns ++ " AS " ++ kept ++ "("), .query q, .text ")"]

/-- Reads how many rows a query gives and where they begin. -/
def limits : Parser (List Piece) := do
  let offset : Parser (List Piece) := do
    if ← keyword "OFFSET" then
      let e ← expr g .ordinary
      return [.text " OFFSET ", .expr e, .text (spaced (← oneOf ["ROW", "ROWS"]))]
    else return []
  let early ← offset
  if ← keyword "LIMIT" then
    if ← keyword "ALL" then return (← offset) ++ early
    else
      let e ← expr g .ordinary
      if d ≠ .postgres && early.isEmpty then
        if ← sign "," then
          return [.text " LIMIT ", .expr e, .text ", ", .expr (← expr g .ordinary)]
        else return .text " LIMIT " :: .expr e :: (← offset)
      else
        let late ← if early.isEmpty then offset else pure early
        return .text " LIMIT " :: .expr e :: late
  else return early

/-- Reads how a query fetches or locks its rows. -/
def rowClauses : Parser (List Piece) := do
  let fetch ← (do
    if ← keyword "FETCH" then
      let _ ← expectOneOf ["FIRST", "NEXT"]
      let count ← (do
        match ← oneOf ["ROW", "ROWS"] with
        | some _ => return ""
        | none =>
          let v ← value d
          let percent ← (do if ← keyword "PERCENT" then return " PERCENT" else return "")
          let _ ← expectOneOf ["ROW", "ROWS"]
          return v.render ++ percent ++ " ")
      let ties ← (do
        if ← keyword "ONLY" then return "ONLY"
        else if ← keywords ["WITH", "TIES"] then return "WITH TIES"
        else expected "one of ONLY or WITH TIES")
      return [Piece.text (" FETCH FIRST " ++ count ++ "ROWS " ++ ties)]
    else return [])
  let locks ← many do
    if ← keyword "FOR" then
      let kind ← expectOneOf ["UPDATE", "SHARE"]
      let target ← (do
        if ← keyword "OF" then return " OF " ++ renderPath (← path) else return "")
      let wait ← (do
        if ← keyword "NOWAIT" then return " NOWAIT"
        else if ← keywords ["SKIP", "LOCKED"] then return " SKIP LOCKED"
        else return "")
      return some (Piece.text (" FOR " ++ kind ++ target ++ wait))
    else return none
  return fetch ++ locks

/-- Reads a query. -/
def query : Parser Query := do
  let definitions ← (do
    if ← keyword "WITH" then
      let recursive ← (do if ← keyword "RECURSIVE" then return "RECURSIVE " else return "")
      let tables ← commaSeparated (definition d g)
      return .text ("WITH " ++ recursive) :: joinPieces ", " tables ++ [Piece.text " "]
    else return [])
  let body ← queryBody d g
  let order ← (do
    if ← keywords ["ORDER", "BY"] then return .text " ORDER BY " :: (← sortItems g .ordinary)
    else return [])
  let limit ← limits d g
  return .mk definitions body (order ++ limit ++ (← rowClauses d))

end

/-- The readers of expressions and queries that may be nested to a depth. -/
def grammar (d : Dialect) : Nat → Grammar
  | 0 => ⟨fun _ _ => fail .tooDeep, fail .tooDeep⟩
  | depth + 1 =>
    let inner := grammar d depth
    ⟨fun m bound => exprAbove d inner m bound, query d inner⟩

end TableTypes.Sql.Parser
