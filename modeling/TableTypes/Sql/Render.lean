import TableTypes.Sql.Syntax

/-!
# Canonical text of SQL

The text of names, types, expressions, queries and statements: keywords in capital letters, one
blank between words, a comma and a blank between the items of a list, quotes kept as they are
written.
-/

namespace TableTypes.Sql

/-- A value inside quotes. A quote that stands alone is written twice; one that stands beside
another, or behind a backslash, counts as written in full already. -/
def escapeQuotes (quote : Char) (afterBackslash : Bool) : List Char → List Char
  | [] => []
  | [c] => if c = quote && !afterBackslash then [c, c] else [c]
  | c :: next :: rest =>
    if c = quote then
      if afterBackslash then c :: escapeQuotes quote true (next :: rest)
      else if next = quote then c :: next :: escapeQuotes quote false rest
      else c :: c :: escapeQuotes quote false (next :: rest)
    else c :: escapeQuotes quote (c = '\\') (next :: rest)

/-- A value between quotes. -/
def quoted (quote : Char) (value : String) : String :=
  quote.toString ++ String.ofList (escapeQuotes quote false value.toList) ++ quote.toString

/-- Texts with a comma and a blank between them. -/
def commas (texts : List String) : String :=
  ", ".intercalate texts

/-- A text behind a blank, if there is one. -/
def spaced : Option String → String
  | some s => " " ++ s
  | none => ""

/-- The text of a name. -/
def Name.render (n : Name) : String :=
  match n.quote with
  | none => n.text
  | some '[' => "[" ++ n.text ++ "]"
  | some q => quoted q n.text

/-- The text of a qualified name. -/
def renderPath (p : Path) : String :=
  ".".intercalate (p.map Name.render)

/-- The text of the escapes of a string constant with escapes. -/
def escapeControls (cs : List Char) : List Char :=
  cs.flatMap fun c =>
    match c with
    | '\'' => ['\\', '\'']
    | '\\' => ['\\', '\\']
    | '\n' => ['\\', 'n']
    | '\t' => ['\\', 't']
    | '\r' => ['\\', 'r']
    | c => [c]

/-- The text of the escapes of a string constant with Unicode escapes. -/
def escapeUnicode (cs : List Char) : List Char :=
  let hex (width : Nat) (c : Char) : List Char :=
    let digits := (Nat.toDigits 16 c.toNat).map Char.toUpper
    List.replicate (width - digits.length) '0' ++ digits
  cs.flatMap fun c =>
    if c = '\'' then ['\'', '\'']
    else if c = '\\' then ['\\', '\\']
    else if c.toNat < 128 then [c]
    else if c.toNat ≤ 0xffff then '\\' :: hex 4 c
    else '\\' :: '+' :: hex 6 c

/-- The text of a string constant. -/
def renderString (mark : StringMark) (value : String) : String :=
  match mark with
  | .single => quoted '\'' value
  | .double => quoted '"' value
  | .escaped => mark.enclose (String.ofList (escapeControls value.toList))
  | .unicode => mark.enclose (String.ofList (escapeUnicode value.toList))
  | _ => mark.enclose value

/-- The text of a constant. -/
def Literal.render : Literal → String
  | .number digits isLong => if isLong then digits ++ "L" else digits
  | .string mark value => renderString mark value
  | .boolean value => if value then "true" else "false"
  | .null => "NULL"
  | .placeholder name => name

/-- The text of a data type. -/
def DataType.render : DataType → String
  | known keywords [] rest => keywords ++ rest
  | known keywords parameters rest => keywords ++ "(" ++ ",".intercalate parameters ++ ")" ++ rest
  | named path [] => renderPath path
  | named path parameters => renderPath path ++ "(" ++ commas parameters ++ ")"
  | enum labels =>
    let label := fun (text, number) =>
      quoted '\'' text ++
        match number with
        | some n => " = " ++ n
        | none => ""
    "ENUM(" ++ commas (labels.map label) ++ ")"
  | labelSet labels => "SET(" ++ commas (labels.map (quoted '\'')) ++ ")"
  | array element none => element.render ++ "[]"
  | array element (some size) => element.render ++ "[" ++ toString size ++ "]"
  | arrayOf element => "ARRAY<" ++ element.render ++ ">"
  | unspecified => ""

/-- Whether an operator before its operand needs a blank behind it. -/
def isSpacedOperator (operator : String) : Bool :=
  ["NOT", "#", "@-@", "@@", "?-", "?|"].contains operator

mutual

/-- The text of an expression. -/
def Expr.render : Expr → String
  | .name path => renderPath path
  | .literal value => value.render
  | .nested e => "(" ++ e.render ++ ")"
  | .tuple items => "(" ++ commas (renderExprs items) ++ ")"
  | .unary operator e => operator ++ (if isSpacedOperator operator then " " else "") ++ e.render
  | .binary left operator right => left.render ++ " " ++ operator ++ " " ++ right.render
  | .inList e negated items =>
    e.render ++ (if negated then " NOT IN (" else " IN (") ++ commas (renderExprs items) ++ ")"
  | .call function arguments => renderPath function ++ "(" ++ renderPieces arguments ++ ")"
  | .phrase pieces => renderPieces pieces

/-- The texts of expressions. -/
def renderExprs : List Expr → List String
  | [] => []
  | e :: rest => e.render :: renderExprs rest

/-- The text of a part of a construct. -/
def Piece.render : Piece → String
  | .text s => s
  | .expr e => e.render
  | .query q => q.render

/-- The texts of parts of a construct, one behind the other. -/
def renderPieces : List Piece → String
  | [] => ""
  | p :: rest => p.render ++ renderPieces rest

/-- The text of a query. -/
def Query.render : Query → String
  | .mk definitions body clauses => renderPieces definitions ++ body.render ++ renderPieces clauses

/-- The text of the body of a query. -/
def QueryBody.render : QueryBody → String
  | .select s => s.render
  | .nested q => "(" ++ q.render ++ ")"
  | .operation left operator right => left.render ++ " " ++ operator ++ " " ++ right.render
  | .rows pieces => renderPieces pieces

/-- The text of a selection. -/
def Select.render : Select → String
  | .mk quantifier items sources condition clauses =>
    "SELECT" ++ renderPieces quantifier ++ renderItemList items ++ renderFrom sources ++
      renderWhere condition ++ renderPieces clauses
  | .into quantifier items target sources condition clauses =>
    "SELECT" ++ renderPieces quantifier ++ renderItemList items ++ renderPieces target ++
      renderFrom sources ++ renderWhere condition ++ renderPieces clauses

/-- The items of a selection behind a blank, if there are any. -/
def renderItemList : List SelectItem → String
  | [] => ""
  | item :: rest => " " ++ commas (item.render :: renderItems rest)

/-- The text of the sources of a selection, if there are any. -/
def renderFrom : List Source → String
  | [] => ""
  | source :: rest => " FROM " ++ commas (source.render :: renderSources rest)

/-- The text of the condition of a selection, if there is one. -/
def renderWhere : Option Expr → String
  | none => ""
  | some e => " WHERE " ++ e.render

/-- The text of an item of a selection. -/
def SelectItem.render : SelectItem → String
  | .expr e none => e.render
  | .expr e (some newName) => e.render ++ " AS " ++ newName.render
  | .wildcard [] => "*"
  | .wildcard path => renderPath path ++ ".*"

/-- The texts of the items of a selection. -/
def renderItems : List SelectItem → List String
  | [] => []
  | item :: rest => item.render :: renderItems rest

/-- The text of a source of a selection. -/
def Source.render : Source → String
  | .table path rest joins => renderPath path ++ renderPieces rest ++ renderPieces joins
  | .other pieces joins => renderPieces pieces ++ renderPieces joins

/-- The texts of the sources of a selection. -/
def renderSources : List Source → List String
  | [] => []
  | source :: rest => source.render :: renderSources rest

end

/-- The text that says whether a constraint is enforced. -/
def renderEnforced : Option Bool → String
  | none => ""
  | some true => " ENFORCED"
  | some false => " NOT ENFORCED"

/-- The text that says when a constraint is checked. -/
def Checking.render (c : Checking) : String :=
  (match c.deferrable with
   | none => ""
   | some true => " DEFERRABLE"
   | some false => " NOT DEFERRABLE") ++
  (match c.immediate with
   | none => ""
   | some true => " INITIALLY IMMEDIATE"
   | some false => " INITIALLY DEFERRED") ++
  renderEnforced c.enforced

/-- Names in parentheses behind a blank, if there are any. -/
def renderColumnList (columns : List Name) : String :=
  match columns with
  | [] => ""
  | columns => " (" ++ commas (columns.map Name.render) ++ ")"

/-- The text of a reference behind its keyword. -/
def Reference.render (r : Reference) : String :=
  let clause (keywords : String) (value : Option String) : String :=
    match value with
    | none => ""
    | some word => keywords ++ word
  renderPath r.table ++ renderColumnList r.columns ++ clause " MATCH " r.matching ++
    clause " ON DELETE " r.onDelete ++ clause " ON UPDATE " r.onUpdate ++ r.checking.render

/-- The text of an option of a sequence. -/
def SequenceOption.render (o : SequenceOption) : String :=
  " " ++ o.keywords ++ spaced (o.value.map Expr.render)

/-- The text of an option of a column. -/
def ColumnOption.render : ColumnOption → String
  | null => "NULL"
  | notNull => "NOT NULL"
  | default e => "DEFAULT " ++ e.render
  | primaryKey checking => "PRIMARY KEY" ++ checking.render
  | unique checking => "UNIQUE" ++ checking.render
  | references target => "REFERENCES " ++ target.render
  | check condition enforced => "CHECK (" ++ condition.render ++ ")" ++ renderEnforced enforced
  | keyword word => word
  | characterSet name => "CHARACTER SET " ++ renderPath name
  | collation name => "COLLATE " ++ renderPath name
  | comment text => "COMMENT " ++ quoted '\'' text
  | onUpdate e => "ON UPDATE " ++ e.render
  | identity always options =>
    "GENERATED " ++ (if always then "ALWAYS" else "BY DEFAULT") ++ " AS IDENTITY" ++
      match options with
      | [] => ""
      | options => " (" ++ String.join (options.map SequenceOption.render) ++ " )"
  | computed generated e storage =>
    (if generated then "GENERATED ALWAYS AS (" else "AS (") ++ e.render ++ ")" ++ spaced storage
  | srid e => "SRID " ++ e.render
  | onConflict action => "ON CONFLICT " ++ action
  | invisible => "INVISIBLE"

/-- The text of the name of a constraint before the constraint. -/
def renderConstraintName : Option Name → String
  | none => ""
  | some name => "CONSTRAINT " ++ name.render ++ " "

/-- The text of a column of a table. -/
def ColumnDefinition.render (c : ColumnDefinition) : String :=
  c.name.render ++
    (match c.type with
     | .unspecified => ""
     | type => " " ++ type.render) ++
    String.join (c.options.map fun (name, option) =>
      " " ++ renderConstraintName name ++ option.render)

/-- The text of a column of a key. -/
def KeyColumn.render (k : KeyColumn) : String :=
  k.e.render ++ spaced (k.operatorClass.map Name.render) ++ k.order

/-- The columns of a key in parentheses. -/
def renderKey (columns : List KeyColumn) : String :=
  " (" ++ commas (columns.map KeyColumn.render) ++ ")"

/-- The text of a constraint of a table. -/
def TableConstraint.render : TableConstraint → String
  | .primaryKey name kind columns rest =>
    renderConstraintName name ++ "PRIMARY KEY" ++ kind ++ renderKey columns ++ rest
  | .unique name kind columns rest =>
    renderConstraintName name ++ "UNIQUE" ++ kind ++ renderKey columns ++ rest
  | .foreignKey name kind columns target =>
    renderConstraintName name ++ "FOREIGN KEY" ++ kind ++ renderColumnList columns ++
      " REFERENCES " ++ target.render
  | .check name condition enforced =>
    renderConstraintName name ++ "CHECK (" ++ condition.render ++ ")" ++ renderEnforced enforced
  | .index keywords columns rest => keywords ++ renderKey columns ++ rest

/-- The text of a new table. -/
def TableDefinition.render (t : TableDefinition) : String :=
  let elements := t.columns.map ColumnDefinition.render ++ t.constraints.map TableConstraint.render
  "CREATE " ++ (if t.orReplace then "OR REPLACE " else "") ++
    String.join (t.kind.map (· ++ " ")) ++ "TABLE " ++
    (if t.ifNotExists then "IF NOT EXISTS " else "") ++ renderPath t.name ++
    (if elements.isEmpty then if t.model.isNone && t.query.isNone then " ()" else ""
     else " (" ++ commas elements ++ ")") ++
    (match t.model with
     | none => ""
     | some (keyword, path) => " " ++ keyword ++ " " ++ renderPath path) ++
    renderPieces t.clauses ++
    match t.query with
    | none => ""
    | some q => " AS " ++ q.render

/-- The text of what a new type is. -/
def TypeBody.render : TypeBody → String
  | .enum labels => " AS ENUM (" ++ commas (labels.map Name.render) ++ ")"
  | .range options => " AS RANGE (" ++ commas options ++ ")"
  | .composite attributes =>
    " AS (" ++ commas (attributes.map fun (name, type, collation) =>
      name.render ++ " " ++ type.render ++
        match collation with
        | Option.none => ""
        | some c => " COLLATE " ++ renderPath c) ++ ")"
  | .base options => " (" ++ commas options ++ ")"
  | .none => ""

/-- The text of a new domain. -/
def DomainDefinition.render (d : DomainDefinition) : String :=
  "CREATE DOMAIN " ++ renderPath d.name ++ " AS " ++ d.type.render ++
    (match d.collation with
     | none => ""
     | some c => " COLLATE " ++ c.render) ++
    (match d.default with
     | none => ""
     | some e => " DEFAULT " ++ e.render) ++
    String.join (d.constraints.map fun c => " " ++ c.render)

/-- The text of a new view. -/
def ViewDefinition.render (v : ViewDefinition) : String :=
  "CREATE " ++ (if v.orAlter then "OR ALTER " else "") ++
    (if v.orReplace then "OR REPLACE " else "") ++ v.parameters ++
    (if v.secure then "SECURE " else "") ++ (if v.materialized then "MATERIALIZED " else "") ++
    (if v.temporary then "TEMPORARY " else "") ++ "VIEW " ++
    (if v.ifNotExists && !v.nameFirst then "IF NOT EXISTS " else "") ++ renderPath v.name ++
    (if v.ifNotExists && v.nameFirst then " IF NOT EXISTS" else "") ++
    renderColumnList v.columns ++ renderPieces v.options ++ " AS " ++ v.query.render

/-- The text of a comment on an object. Its own text is written as it is. -/
def Comment.render (c : Comment) : String :=
  "COMMENT " ++ (if c.ifExists then "IF EXISTS " else "") ++ "ON " ++ c.object ++ " " ++
    renderPath c.name ++ " IS " ++
    match c.text with
    | none => "NULL"
    | some text => "'" ++ text ++ "'"

/-- The text of a statement; one of another kind is left out. -/
def Statement.render : Statement → String
  | table t => t.render
  | type name body => "CREATE TYPE " ++ renderPath name ++ body.render
  | domain d => d.render
  | comment c => c.render
  | view v => v.render
  | other => ""

end TableTypes.Sql
