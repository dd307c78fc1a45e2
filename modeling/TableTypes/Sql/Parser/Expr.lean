import TableTypes.Sql.Parser.Precedence
import TableTypes.Sql.Parser.Type

/-!
# Reading expressions

Expressions are read by the strength of their operators. The readers of nested expressions and
queries are given from outside, so that the depth of nesting can be bounded there.
-/

namespace TableTypes.Sql

/-- The readers of nested expressions, with the strength that ends them, and of nested queries. -/
structure Grammar where
  expr : Mode → Nat → Parser Expr
  query : Parser Query

namespace Parser

/-- Items with a separator between them. -/
def joinPieces (separator : String) (items : List (List Piece)) : List Piece :=
  ([Piece.text separator].intercalate items)

/-- Expressions with commas between them. -/
def commaPieces (es : List Expr) : List Piece :=
  joinPieces ", " (es.map fun e => [.expr e])

/-- Reads a constant. In MySQL texts behind one another are one text. -/
def value (d : Dialect) : Parser Literal :=
  fun ts =>
    match ts with
    | [] => .error (.expected "a value" none)
    | ⟨token, position, word⟩ :: rest =>
      match token with
      | .word s (some q) =>
        if q = '"' then .ok (.string .double s, rest) else .error (.expected "A value?" ts.head?)
      | .word _ none =>
        match word with
        | some "TRUE" => .ok (.boolean true, rest)
        | some "FALSE" => .ok (.boolean false, rest)
        | some "NULL" => .ok (.null, rest)
        | _ => .error (.expected "a concrete value" ts.head?)
      | .number digits isLong => .ok (.number digits isLong, rest)
      | .constant mark s =>
        let more := if d = .mysql && (mark = .single || mark = .double) then
            rest.takeWhile fun t =>
              match t.token with
              | .constant .single _ => true
              | .constant .double _ => true
              | _ => false
          else []
        let text := more.foldl (fun s t =>
          match t.token with
          | .constant _ part => s ++ part
          | _ => s) s
        .ok (.string mark text, rest.drop more.length)
      | .placeholder name => .ok (.placeholder name, rest)
      | .sign s =>
        if s = ":" || s = "@" then
          match rest with
          | ⟨.word name _, _, _⟩ :: rest => .ok (.placeholder (s ++ name), rest)
          | ⟨.number digits false, _, _⟩ :: rest => .ok (.placeholder (s ++ digits), rest)
          | _ => .error (.expected "placeholder" rest.head?)
        else .error (.expected "a value" (some ⟨token, position, word⟩))

section
variable (d : Dialect) (g : Grammar) (m : Mode)

/-- Reads a whole expression. -/
def expr : Parser Expr :=
  g.expr m 0

/-- Reads a unit of time. -/
def timeUnit : Parser String := do
  match ← oneOf timeUnits with
  | some word => return word
  | none =>
    fun ts =>
      match ts, d with
      | ⟨.word s q, _, _⟩ :: rest, .postgres => .ok (Name.render ⟨s, q⟩, rest)
      | ⟨.constant .single s, _, _⟩ :: rest, .postgres => .ok (Name.render ⟨s, some '\''⟩, rest)
      | _, _ => .error (.expected "date/time field" ts.head?)

/-- Whether a query stands here. -/
def queryAhead : Parser Bool := do
  let word ← peekKeyword 0
  return word = "SELECT" || word = "WITH"

/-- Reads a query in parentheses. -/
def queryInParentheses : Parser (List Piece) := do
  let q ← parenthesized g.query
  return [.text "(", .query q, .text ")"]

/-- Reads the order of an item: its direction and where nulls go. -/
def direction : Parser String := do
  let first ← (do
    match ← oneOf ["ASC", "DESC"] with
    | some word => return " " ++ word
    | none => return "")
  if ← keywords ["NULLS", "FIRST"] then return first ++ " NULLS FIRST"
  else if ← keywords ["NULLS", "LAST"] then return first ++ " NULLS LAST"
  else return first

/-- Reads items to sort by. -/
def sortItems : Parser (List Piece) := do
  let items ← commaSeparated do
    let e ← expr g m
    return [Piece.expr e, .text (← direction)]
  return joinPieces ", " items

/-- Reads an end of the frame of a window. -/
def frameEnd : Parser (List Piece) := do
  if ← keywords ["CURRENT", "ROW"] then return [.text "CURRENT ROW"]
  else if ← keyword "UNBOUNDED" then
    return [.text ("UNBOUNDED " ++ (← expectOneOf ["PRECEDING", "FOLLOWING"]))]
  else
    let e ← expr g m
    return [.expr e, .text (" " ++ (← expectOneOf ["PRECEDING", "FOLLOWING"]))]

/-- Reads the frame of a window if one stands here. -/
def frame : Parser (List Piece) := do
  match ← oneOf ["ROWS", "RANGE", "GROUPS"] with
  | none => return []
  | some unit =>
    if ← keyword "BETWEEN" then
      let first ← frameEnd g m
      expectKeyword "AND"
      let last ← frameEnd g m
      return .text (unit ++ " BETWEEN ") :: first ++ .text " AND " :: last
    else return .text (unit ++ " ") :: (← frameEnd g m)

/-- Reads a window behind its opening parenthesis. -/
def window : Parser (List Piece) := do
  let isNamed := !(["PARTITION", "ORDER", "ROWS", "RANGE", "GROUPS", ""].contains (← peekKeyword 0))
  let base ← (do if isNamed then return [[Piece.text (← name).render]] else return [])
  let parts ← (do
    if ← keywords ["PARTITION", "BY"] then
      let es ← commaSeparated (expr g m)
      return [Piece.text "PARTITION BY " :: commaPieces es]
    else return [])
  let order ← (do
    if ← keywords ["ORDER", "BY"] then return [Piece.text "ORDER BY " :: (← sortItems g m)]
    else return [])
  let range ← frame g m
  expectSign ")"
  return joinPieces " " (base ++ parts ++ order ++ if range.isEmpty then [] else [range])

/-- Reads `*`, a qualified `*`, or an expression. -/
def wildcardOr : Parser (Path ⊕ Expr) := do
  if ← sign "*" then return .inl []
  else if (← peekSign 0 "(") && (← peekSign 1 "*") && (← peekSign 2 ")") then
    skip
    skip
    skip
    return .inl []
  else
    let isName := ((← peek).map fun t =>
      match t.token with
      | .word _ _ => true
      | .constant .single _ => true
      | _ => false).getD false
    if isName && (← peekSign 1 ".") then
      let before ← get
      let first ← name
      let names ← many do
        if ← peekSign 0 "." then
          if ← peekSign 1 "*" then return none
          else
            skip
            match ← attempt name with
            | some n => return some n
            | none => expected "an identifier or a '*' after '.'"
        else return none
      if ← sign "." then
        skip
        return .inl (first :: names)
      else
        set before
        return .inr (← expr g m)
    else return .inr (← expr g m)

/-- Reads an argument of a function, which may have a name. -/
def argument : Parser (List Piece) := do
  let ofItem (item : Path ⊕ Expr) : List Piece :=
    match item with
    | .inl [] => [.text "*"]
    | .inl p => [.text (renderPath p ++ ".*")]
    | .inr e => [.expr e]
  let named ← attempt do
    let n ← name
    let operator ← (do
      if ← sign "=>" then return " => "
      else if ← sign ":=" then return " := "
      else expected "argument operator")
    return .text (n.render ++ operator) :: ofItem (← wildcardOr g m)
  match named with
  | some pieces => return pieces
  | none => return ofItem (← wildcardOr g m)

/-- Reads the arguments of a function behind the opening parenthesis, and the closing one. -/
def argumentList : Parser (List Piece) := do
  if ← sign ")" then return []
  else
    let quantifier ← (do
      match ← oneOf ["ALL", "DISTINCT"] with
      | some word => return [Piece.text (word ++ " ")]
      | none => return [])
    let arguments ← commaSeparated (argument g m)
    let order ← (do
      if ← keywords ["ORDER", "BY"] then return .text " ORDER BY " :: (← sortItems g m)
      else return [])
    let limit ← (do
      if ← keyword "LIMIT" then return [.text " LIMIT ", .expr (← expr g m)] else return [])
    let separator ← (do
      if d = .mysql then
        if ← keyword "SEPARATOR" then
          return [Piece.text " SEPARATOR ", .expr (.literal (← value d))]
        else return []
      else return [])
    expectSign ")"
    return quantifier ++ joinPieces ", " arguments ++ order ++ limit ++ separator

/-- Reads the call of a function behind its name. -/
def callOf (function : Path) : Parser Expr := do
  expectSign "("
  let call := Expr.call function (← argumentList d g m)
  let within ← (do
    if ← keywords ["WITHIN", "GROUP"] then
      expectSign "("
      expectKeyword "ORDER"
      expectKeyword "BY"
      let items ← sortItems g m
      expectSign ")"
      return .text " WITHIN GROUP (ORDER BY " :: items ++ [.text ")"]
    else return [])
  let filter ← (do
    if d ≠ .mysql && (← peekKeyword 0) = "FILTER" && (← peekSign 1 "(") then
      skip
      skip
      expectKeyword "WHERE"
      let e ← expr g m
      expectSign ")"
      return [Piece.text " FILTER (WHERE ", .expr e, .text ")"]
    else return [])
  let nulls ← (do
    if ← keywords ["RESPECT", "NULLS"] then return [Piece.text " RESPECT NULLS"]
    else if ← keywords ["IGNORE", "NULLS"] then return [.text " IGNORE NULLS"]
    else return [])
  let frame ← (do
    if ← keyword "OVER" then
      if ← sign "(" then return .text " OVER (" :: (← window g m) ++ [.text ")"]
      else return [Piece.text (" OVER " ++ (← name).render)]
    else return [])
  match within ++ filter ++ nulls ++ frame with
  | [] => return call
  | behind => return .phrase (.expr call :: behind)

/-- Reads the value and the units of an interval. -/
def intervalValue (prefixExpr : Parser Expr) : Parser Expr := do
  let e ← if d = .mysql then expr g m else prefixExpr
  let isUnit := timeUnits.contains (← peekKeyword 0)
  if isUnit then
    let first ← timeUnit d
    let precision ← optionalPrecision
    let shown := if precision.isEmpty then "" else " (" ++ commas precision ++ ")"
    let last ← (do
      if ← keyword "TO" then return " TO " ++ (← timeUnit d) else return "")
    return .phrase [.text "INTERVAL ", .expr e, .text (" " ++ first ++ shown ++ last)]
  else if d = .mysql then
    refuse "INTERVAL requires a unit after the literal value"
  else return .phrase [.text "INTERVAL ", .expr e]

/-- Reads a choice behind `CASE`. -/
def caseOf : Parser Expr := do
  let subject ← (do
    if ← keyword "WHEN" then return []
    else
      let e ← expr g m
      expectKeyword "WHEN"
      return [Piece.text " ", .expr e])
  let branch : Parser (List Piece) := do
    let condition ← expr g m
    expectKeyword "THEN"
    let result ← expr g m
    return [.text " WHEN ", .expr condition, .text " THEN ", .expr result]
  let first ← branch
  let more ← many do
    if ← keyword "WHEN" then return some (← branch) else return none
  let last ← (do
    if ← keyword "ELSE" then return [Piece.text " ELSE ", .expr (← expr g m)] else return [])
  expectKeyword "END"
  return .phrase (.text "CASE" :: subject ++ first ++ more.flatten ++ last ++ [.text " END"])

/-- Reads a conversion `(e AS type)` behind its keyword. -/
def castOf (word : String) : Parser Expr := do
  expectSign "("
  let e ← expr g m
  expectKeyword "AS"
  let type ← dataType d
  expectSign ")"
  return .phrase [.text (word ++ "("), .expr e, .text (" AS " ++ type.render ++ ")")]

/-- Reads a conversion `(e, type)` or `(e USING charset)` behind its keyword. -/
def convertOf : Parser Expr := do
  expectSign "("
  let e ← expr g m
  if ← keyword "USING" then
    let charset ← path
    expectSign ")"
    return .phrase [.text "CONVERT(", .expr e, .text (" USING " ++ renderPath charset ++ ")")]
  else
    expectSign ","
    let type ← dataType d
    let charset ← (do
      if ← keywords ["CHARACTER", "SET"] then
        return " CHARACTER SET " ++ renderPath (← path)
      else return "")
    expectSign ")"
    return .phrase [.text "CONVERT(", .expr e, .text (", " ++ type.render ++ charset ++ ")")]

/-- Reads `EXTRACT(unit FROM e)` behind its keyword. -/
def extractOf : Parser Expr := do
  expectSign "("
  let unit ← timeUnit d
  expectKeyword "FROM"
  let e ← expr g m
  expectSign ")"
  return .phrase [.text ("EXTRACT(" ++ unit ++ " FROM "), .expr e, .text ")"]

/-- Reads `CEIL` or `FLOOR` behind its keyword. -/
def roundOf (word : String) : Parser Expr := do
  expectSign "("
  let e ← expr g m
  let behind ← (do
    if ← keyword "TO" then return " TO " ++ (← timeUnit d)
    else if ← sign "," then return ", " ++ (← value d).render
    else return "")
  expectSign ")"
  return .phrase [.text (word ++ "("), .expr e, .text (behind ++ ")")]

/-- Reads `(part IN whole)` behind `POSITION`. -/
def positionOf : Parser Expr := do
  expectSign "("
  let part ← g.expr m (Strength.between.value d)
  expectKeyword "IN"
  let whole ← expr g m
  expectSign ")"
  return .phrase [.text "POSITION(", .expr part, .text " IN ", .expr whole, .text ")"]

/-- Reads the arguments of `SUBSTRING` or `SUBSTR`. -/
def substringOf (word : String) : Parser Expr := do
  expectSign "("
  let e ← expr g m
  let start ← (do
    if ← keyword "FROM" then return [Piece.text " FROM ", .expr (← expr g m)]
    else if ← sign "," then return [.text ", ", .expr (← expr g m)]
    else return [])
  let length ← (do
    if ← keyword "FOR" then return [Piece.text " FOR ", .expr (← expr g m)]
    else if ← sign "," then return [.text ", ", .expr (← expr g m)]
    else return [])
  expectSign ")"
  return .phrase (.text (word ++ "(") :: .expr e :: start ++ length ++ [.text ")"])

/-- Reads the arguments of `OVERLAY`. -/
def overlayOf : Parser Expr := do
  expectSign "("
  let e ← expr g m
  expectKeyword "PLACING"
  let part ← expr g m
  expectKeyword "FROM"
  let start ← expr g m
  let length ← (do
    if ← keyword "FOR" then return [Piece.text " FOR ", .expr (← expr g m)] else return [])
  expectSign ")"
  return .phrase ([.text "OVERLAY(", .expr e, .text " PLACING ", .expr part, .text " FROM ",
    .expr start] ++ length ++ [.text ")"])

/-- Reads the arguments of `TRIM`. -/
def trimOf : Parser Expr := do
  expectSign "("
  let side ← (do
    match ← oneOf ["BOTH", "LEADING", "TRAILING"] with
    | some word => return [Piece.text (word ++ " ")]
    | none => return [])
  let e ← expr g m
  let source ← (do
    if ← keyword "FROM" then return [Piece.text " FROM ", .expr (← expr g m)] else return [])
  expectSign ")"
  return .phrase (.text "TRIM(" :: side ++ .expr e :: source ++ [.text ")"])

/-- Reads the items of an array behind the opening bracket. -/
def arrayOf (word : String) : Parser Expr := do
  let items ← commaSeparatedUntil "]" (expr g m)
  expectSign "]"
  return .phrase (.text (word ++ "[") :: commaPieces items ++ [.text "]"])

/-- Reads `MATCH (columns) AGAINST (text)` behind its keyword. -/
def matchAgainstOf : Parser Expr := do
  let columns ← parenthesized (commaSeparated path)
  expectKeyword "AGAINST"
  expectSign "("
  let text ← value d
  let mode ← (do
    if ← keywords ["IN", "NATURAL", "LANGUAGE", "MODE", "WITH", "QUERY", "EXPANSION"] then
      return " IN NATURAL LANGUAGE MODE WITH QUERY EXPANSION"
    else if ← keywords ["IN", "NATURAL", "LANGUAGE", "MODE"] then
      return " IN NATURAL LANGUAGE MODE"
    else if ← keywords ["IN", "BOOLEAN", "MODE"] then return " IN BOOLEAN MODE"
    else if ← keywords ["WITH", "QUERY", "EXPANSION"] then return " WITH QUERY EXPANSION"
    else return "")
  expectSign ")"
  return .phrase [.text ("MATCH (" ++ commas (columns.map renderPath) ++ ") AGAINST (" ++
    text.render ++ mode ++ ")")]

/-- Reads the query of `EXISTS`. -/
def existsOf (negated : Bool) : Parser Expr := do
  let pieces ← queryInParentheses g
  return .phrase (.text (if negated then "NOT EXISTS " else "EXISTS ") :: pieces)

/-- Reads what a keyword begins, if it begins an expression of its own form. The word is taken
already; `word` is its keyword and `written` its name. -/
def specialForm (prefixExpr : Parser Expr) (word : String) (written : Name) :
    Parser (Option Expr) := do
  match word with
  | "TRUE" => return some (.literal (.boolean true))
  | "FALSE" => return some (.literal (.boolean false))
  | "NULL" => return some (.literal .null)
  | "CASE" => return some (← caseOf g m)
  | "CONVERT" => return some (← convertOf d g m)
  | "CAST" => return some (← castOf d g m word)
  | "TRY_CAST" => return some (← castOf d g m word)
  | "SAFE_CAST" => return some (← castOf d g m word)
  | "EXISTS" => return some (← existsOf g false)
  | "EXTRACT" => return some (← extractOf d g m)
  | "CEIL" => return some (← roundOf d g m word)
  | "FLOOR" => return some (← roundOf d g m word)
  | "SUBSTRING" => return some (← substringOf g m word)
  | "SUBSTR" => return some (← substringOf g m word)
  | "OVERLAY" => return some (← overlayOf g m)
  | "TRIM" => return some (← trimOf g m)
  | "INTERVAL" => return some (← intervalValue d g m prefixExpr)
  | "POSITION" =>
    if ← peekSign 0 "(" then
      match ← attempt (positionOf d g m) with
      | some e => return some e
      | none => return some (← callOf d g m [written])
    else return none
  | "ARRAY" =>
    if ← sign "[" then return some (← arrayOf g m written.text)
    else if ← peekSign 0 "(" then
      return some (.phrase (.text written.text :: (← queryInParentheses g)))
    else return none
  | "NOT" =>
    if ← keyword "EXISTS" then return some (← existsOf g true)
    else return some (.unary "NOT" (← g.expr m (Strength.not.value d)))
  | "MATCH" => if d = .mysql then return some (← matchAgainstOf d) else return none
  | _ =>
    if ["CURRENT_TIMESTAMP", "CURRENT_TIME", "CURRENT_DATE", "LOCALTIME", "LOCALTIMESTAMP"].contains
        word then
      if ← sign "(" then return some (.call [written] (← argumentList d g m))
      else return some (.phrase [.text written.text])
    else if d = .postgres &&
        ["CURRENT_CATALOG", "CURRENT_USER", "SESSION_USER", "USER"].contains word then
      return some (.phrase [.text written.text])
    else return none

/-- Reads what a word begins that has no meaning of its own: the call of a function, a text with a
character set before it, or a name. -/
def nameOrCall (written : Name) : Parser Expr := do
  if ← peekSign 0 "(" then callOf d g m [written]
  else
    let introduced := written.text.startsWith "_" && ((← peek).map fun t =>
      match t.token with
      | .constant .single _ => true
      | .constant .double _ => true
      | .constant .hex _ => true
      | _ => false).getD false
    if introduced then
      let v ← value d
      return .phrase [.text (written.render ++ " "), .expr (.literal v)]
    else return .name [written]

/-- Whether a keyword cannot be a name. -/
def isNeverName (word : String) : Bool :=
  ["EXISTS", "STRUCT", "TRIM"].contains word || (word = "INTERVAL" && d ≠ .postgres)

/-- Reads a constant behind the name of a built-in data type. -/
def typedConstant (prefixExpr : Parser Expr) : Parser Expr := do
  match ← dataType d with
  | .named _ _ => expected "a value"
  | .known keywords parameters rest =>
    if keywords.startsWith "INTERVAL" then intervalValue d g m prefixExpr
    else if keywords = "BINARY" && d = .mysql then
      return .phrase [.text "CAST(", .expr (← expr g m), .text " AS BINARY)"]
    else
      let v ← value d
      return .phrase [.text ((DataType.known keywords parameters rest).render ++ " "),
        .expr (.literal v)]
  | type =>
    let v ← value d
    return .phrase [.text (type.render ++ " "), .expr (.literal v)]

/-- Reads an expression up to its first operator; the fuel bounds intervals of intervals. -/
def prefixFrom : Nat → Parser Expr
  | 0 => fail .tooDeep
  | fuel + 1 => fun ts =>
    match ts with
    | [] => .error (.expected "an expression" none)
    | t :: rest =>
      match t.token with
      | .word s quote =>
        let written : Name := ⟨s, quote⟩
        match attempt (typedConstant d g m (prefixFrom fuel)) ts with
        | .error e => .error e
        | .ok (some e, rest) => .ok (e, rest)
        | .ok (none, _) =>
          let word := t.keyword.getD ""
          match specialForm d g m (prefixFrom fuel) word written rest with
          | .ok (some e, rest) => .ok (e, rest)
          | .ok (none, rest) => nameOrCall d g m written rest
          | .error e =>
            if isNeverName d word then .error e
            else
              match attempt (nameOrCall d g m written) rest with
              | .ok (some e, rest) => .ok (e, rest)
              | _ => .error e
      | .number _ _ => (value d ts).map fun (v, rest) => (.literal v, rest)
      | .constant mark _ =>
        if mark = .escaped && d ≠ .postgres then .error (.expected "an expression" ts.head?)
        else (value d ts).map fun (v, rest) => (.literal v, rest)
      | .placeholder _ => (value d ts).map fun (v, rest) => (.literal v, rest)
      | .sign s =>
        if s = "[" then arrayOf g m "" rest
        else if s = "-" || s = "+" then
          (g.expr m (Strength.product.value d) rest).map fun (e, rest) => (.unary s e, rest)
        else if s = "~" || (d = .postgres &&
            ["!!", "|/", "||/", "@", "#", "@-@", "@@", "?-", "?|"].contains s) then
          (g.expr m (Strength.sum.value d) rest).map fun (e, rest) => (.unary s e, rest)
        else if s = "(" then
          (do
            if ← queryAhead then
              let q ← g.query
              expectSign ")"
              return .phrase [.text "(", .query q, .text ")"]
            else
              let items ← commaSeparated (expr g .ordinary)
              expectSign ")"
              match items with
              | [e] => return .nested e
              | items => return .tuple items : Parser Expr) rest
        else if s = ":" || s = "@" then (value d ts).map fun (v, rest) => (.literal v, rest)
        else .error (.expected "an expression" ts.head?)

/-- Reads an expression up to its first operator. -/
def prefixExpr : Parser Expr :=
  prefixFrom d g m 8

/-- What a name or a call gets when something behind a period is added. -/
def withField (root field : Expr) : Expr :=
  match root, field with
  | .name p, .name q => .name (p ++ q)
  | .name p, .call q arguments => .call (p ++ q) arguments
  | _, _ => .phrase [.expr root, .text ".", .expr field]

/-- Whether an expression may stand behind a period. -/
def isField : Expr → Bool
  | .name _ => true
  | .literal _ => true
  | .call _ _ => true
  | _ => false

/-- Reads the fields and elements behind an expression; the fuel is the number of tokens. -/
def fieldsFrom : Nat → Expr → Parser Expr
  | 0, root => return root
  | fuel + 1, root => do
    if ← peekSign 0 "." then
      if ← peekSign 1 "*" then
        if d = .postgres then
          skip
          skip
          match root with
          | .name p => return .phrase [.text (renderPath p ++ ".*")]
          | _ => expected "an identifier or a '*' after '.'"
        else return root
      else
        skip
        let quotedField ← (fun ts =>
          match ts with
          | ⟨.constant .single s, _, _⟩ :: rest => .ok (some ⟨s, some '\''⟩, rest)
          | ⟨.placeholder s, _, _⟩ :: rest => .ok (some ⟨s, none⟩, rest)
          | _ => .ok (none, ts) : Parser (Option Name))
        match quotedField with
        | some n => fieldsFrom fuel (withField root (.name [n]))
        | none =>
          let field ← attempt do
            let e ← g.expr m (Strength.period.value d)
            if isField e then return e else expected "an identifier or value"
          match field with
          | some e => fieldsFrom fuel (withField root e)
          | none => fieldsFrom fuel (withField root (.name [← name]))
    else if ← sign "[" then
      let first ← (do if ← peekSign 0 ":" then return [] else return [Piece.expr (← expr g m)])
      let rest ← (do
        if ← sign ":" then
          if ← peekSign 0 "]" then return [Piece.text ":"]
          else return [.text ":", .expr (← expr g m)]
        else return [])
      expectSign "]"
      fieldsFrom fuel (.phrase (.expr root :: .text "[" :: first ++ rest ++ [.text "]"]))
    else return root

/-- Reads an optional escape character behind a pattern. -/
def escapeClause : Parser (List Piece) := do
  if ← keyword "ESCAPE" then return [.text " ESCAPE ", .expr (.literal (← value d))]
  else return []

/-- Reads what may stand behind `IS`. -/
def isTest (e : Expr) : Parser Expr := do
  let tests : List (List String) := [["NULL"], ["NOT", "NULL"], ["TRUE"], ["NOT", "TRUE"],
    ["FALSE"], ["NOT", "FALSE"], ["UNKNOWN"], ["NOT", "UNKNOWN"]]
  let found ← tests.findM? keywords
  match found with
  | some words => return .phrase [.expr e, .text (" IS " ++ " ".intercalate words)]
  | none =>
    if ← keywords ["DISTINCT", "FROM"] then
      return .binary e "IS DISTINCT FROM" (← expr g m)
    else if ← keywords ["NOT", "DISTINCT", "FROM"] then
      return .binary e "IS NOT DISTINCT FROM" (← expr g m)
    else if ← keyword "NORMALIZED" then return .phrase [.expr e, .text " IS NORMALIZED"]
    else if ← keywords ["NOT", "NORMALIZED"] then
      return .phrase [.expr e, .text " IS NOT NORMALIZED"]
    else
      expected "[NOT] NULL | TRUE | FALSE | DISTINCT | [form] NORMALIZED FROM after IS"

/-- Reads the list or the query behind `IN`. -/
def inOf (e : Expr) (negated : Bool) : Parser Expr := do
  let word := if negated then " NOT IN " else " IN "
  if ← keyword "UNNEST" then
    let items ← parenthesized (expr g m)
    return .phrase [.expr e, .text (word ++ "UNNEST("), .expr items, .text ")"]
  else
    expectSign "("
    match ← attempt g.query with
    | some q =>
      expectSign ")"
      return .phrase [.expr e, .text (word ++ "("), .query q, .text ")"]
    | none =>
      let items ←
        if d = .sqlite then commaSeparatedUntil ")" (expr g m) else commaSeparated (expr g m)
      expectSign ")"
      return .inList e negated items

/-- Reads a test that `NOT` may stand before: a list, a range or a pattern. -/
def patternTest (e : Expr) : Parser Expr := do
  let negated ← keyword "NOT"
  let no := if negated then " NOT " else " "
  let pattern (words : String) : Parser Expr := do
    let any ← (do if ← keyword "ANY" then return "ANY " else return "")
    let p ← g.expr m (Strength.like.value d)
    return .phrase (.expr e :: .text (no ++ words ++ " " ++ any) :: .expr p :: (← escapeClause d))
  match ← oneOf ["REGEXP", "RLIKE"] with
  | some word =>
    let p ← g.expr m (Strength.like.value d)
    return .phrase [.expr e, .text (no ++ word ++ " "), .expr p]
  | none =>
    let isNull ← (do if m = .ordinary then keyword "NULL" else return false)
    if negated && isNull then return .phrase [.expr e, .text " IS NOT NULL"]
    else if ← keyword "IN" then inOf d g m e negated
    else if ← keyword "BETWEEN" then
      let low ← g.expr m (Strength.between.value d)
      expectKeyword "AND"
      let high ← g.expr m (Strength.between.value d)
      return .phrase [.expr e, .text (no ++ "BETWEEN "), .expr low, .text " AND ", .expr high]
    else if ← keyword "LIKE" then pattern "LIKE"
    else if ← keyword "ILIKE" then pattern "ILIKE"
    else if ← keywords ["SIMILAR", "TO"] then pattern "SIMILAR TO"
    else if ← keywords ["MEMBER", "OF"] then
      expectSign "("
      let array ← expr g m
      expectSign ")"
      return .phrase [.expr e, .text (no ++ "MEMBER OF("), .expr array, .text ")"]
    else expected "IN or BETWEEN after NOT"

/-- Reads the right side of an operator, where `ANY`, `ALL` or `SOME` may stand first. -/
def rightSide (e : Expr) (operator : String) (strength : Nat) : Parser Expr := do
  match ← oneOf ["ANY", "ALL", "SOME"] with
  | some word =>
    if (← peekSign 0 "(") && ["SELECT", "WITH"].contains (← peekKeyword 1) then
      return .phrase [.expr e, .text (" " ++ operator ++ " " ++ word), .expr (← g.expr m strength)]
    else
      expectSign "("
      let right ← g.expr m strength
      expectSign ")"
      return .phrase [.expr e, .text (" " ++ operator ++ " " ++ word ++ "("), .expr right,
        .text ")"]
  | none => return .binary e operator (← g.expr m strength)

/-- Reads an operator and what stands behind it. -/
def infixOf (e : Expr) (strength : Nat) : Parser Expr := do
  match ← peek with
  | none => return e
  | some t =>
    match t.token with
    | .sign s =>
      skip
      if s = "::" then
        let type ← dataType d
        return .phrase [.expr e, .text ("::" ++ type.render)]
      else if s = "!" && d = .postgres then return .phrase [.expr e, .text "!"]
      else
        let operator := if s = "!=" then "<>" else if s = "==" then "=" else s
        rightSide g m e operator strength
    | _ =>
      let word := t.keyword.getD ""
      if word = "IS" then
        skip
        isTest g m e
      else if word = "AT" then
        skip
        skip
        skip
        return .binary e "AT TIME ZONE" (← g.expr m strength)
      else if word = "COLLATE" then
        skip
        return .phrase [.expr e, .text (" COLLATE " ++ renderPath (← path))]
      else if word = "NOTNULL" then
        skip
        return .phrase [.expr e, .text " IS NOT NULL"]
      else if d = .sqlite && (word = "REGEXP" || word = "MATCH") then
        skip
        return .binary e word (← expr g m)
      else if ["AND", "OR", "XOR", "OVERLAPS", "DIV"].contains word then
        skip
        rightSide g m e word strength
      else patternTest d g m e

/-- Reads operators stronger than a bound; the fuel is the number of tokens. -/
def infixLoop (bound : Nat) : Nat → Expr → Parser Expr
  | 0, e => return e
  | fuel + 1, e => do
    let strength := nextStrength d m (← get)
    if strength ≤ bound then return e
    else if ← peekSign 0 "." then return e
    else infixLoop bound fuel (← infixOf d g m e strength)

/-- Reads an expression of operators stronger than a bound. -/
def exprAbove (bound : Nat) : Parser Expr := do
  let first ← prefixExpr d g m
  let root ← fieldsFrom d g m (← get).length first
  let left ← (do
    if m = .ordinary then
      if ← keyword "COLLATE" then
        return Expr.phrase [.expr root, .text (" COLLATE " ++ renderPath (← path))]
      else return root
    else return root)
  infixLoop d g m bound ((← get).length + 1) left

end

end Parser

end TableTypes.Sql
