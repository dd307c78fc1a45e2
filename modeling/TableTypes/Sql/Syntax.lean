import TableTypes.Sql.Token

/-!
# Statements of SQL

What the statements of a schema are made of. Tables, types, domains, comments and views are kept in
full; of all other statements it is known only that they are there. Queries and the rarer
expressions are kept as far as their structure matters, with the keywords between their parts as
text.
-/

namespace TableTypes.Sql

/-- A name and the quote that opens it, if it is quoted. -/
structure Name where
  text : String
  quote : Option Char := none
  deriving DecidableEq, Repr, Inhabited

/-- A name after the names it is qualified with. -/
abbrev Path := List Name

/-- A constant. -/
inductive Literal where
  | number (digits : String) (isLong : Bool)
  | string (mark : StringMark) (value : String)
  | boolean (value : Bool)
  | null
  | placeholder (name : String)
  deriving DecidableEq, Repr, Inhabited

/-- A data type. -/
inductive DataType where
  /-- A type known by its keywords, with parameters behind the first of them. -/
  | known (keywords : String) (parameters : List String) (rest : String)
  /-- A type of any other name. -/
  | named (path : Path) (parameters : List String)
  /-- A choice among labels, each with a number if it has one. -/
  | enum (labels : List (String × Option String))
  /-- A set of labels. -/
  | labelSet (labels : List String)
  /-- An array, with its size if it has one. -/
  | array (element : DataType) (size : Option Nat)
  /-- An array of the element type in angle brackets. -/
  | arrayOf (element : DataType)
  /-- No type at all. -/
  | unspecified
  deriving Repr, Inhabited

mutual

/-- An expression. -/
inductive Expr where
  | name (path : Path)
  | literal (value : Literal)
  | nested (e : Expr)
  | tuple (items : List Expr)
  | unary (operator : String) (e : Expr)
  | binary (left : Expr) (operator : String) (right : Expr)
  | inList (e : Expr) (negated : Bool) (items : List Expr)
  | call (function : Path) (arguments : List Piece)
  | phrase (pieces : List Piece)

/-- A part of a construct that is written with keywords between its parts. -/
inductive Piece where
  | text (s : String)
  | expr (e : Expr)
  | query (q : Query)

/-- A query: the tables defined before its body, the body, and the clauses behind it. -/
inductive Query where
  | mk (definitions : List Piece) (body : QueryBody) (clauses : List Piece)

/-- The body of a query. -/
inductive QueryBody where
  | select (s : Select)
  | nested (q : Query)
  | operation (left : QueryBody) (operator : String) (right : QueryBody)
  | rows (pieces : List Piece)

/-- A selection: a word such as `DISTINCT`, the items, the sources, the condition, and the clauses
behind it. -/
inductive Select where
  | mk (quantifier : List Piece) (items : List SelectItem) (sources : List Source)
    (condition : Option Expr) (clauses : List Piece)
  /-- A selection whose rows go into a new table, which is named behind the items. -/
  | into (quantifier : List Piece) (items : List SelectItem) (target : List Piece)
    (sources : List Source) (condition : Option Expr) (clauses : List Piece)

/-- An item of a selection. -/
inductive SelectItem where
  | expr (e : Expr) (newName : Option Name)
  | wildcard (path : Path)

/-- A source of a selection with what is joined to it: a table, with what follows its name, or
anything else. -/
inductive Source where
  | table (path : Path) (rest : List Piece) (joins : List Piece)
  | other (pieces : List Piece) (joins : List Piece)

end

instance : Inhabited Expr := ⟨.name []⟩
instance : Inhabited Piece := ⟨.text ""⟩
instance : Inhabited Query := ⟨.mk [] (.rows []) []⟩

/-- When a constraint is checked, as far as it is said. -/
structure Checking where
  deferrable : Option Bool := none
  /-- Whether the constraint is checked at once. -/
  immediate : Option Bool := none
  enforced : Option Bool := none
  deriving DecidableEq, Repr, Inhabited

/-- A reference to another table. -/
structure Reference where
  table : Path
  columns : List Name
  /-- The keywords behind `MATCH`, `ON DELETE` and `ON UPDATE`. -/
  matching : Option String
  onDelete : Option String
  onUpdate : Option String
  checking : Checking

/-- An option of a sequence. -/
structure SequenceOption where
  keywords : String
  value : Option Expr

/-- An option of a column. -/
inductive ColumnOption where
  | null
  | notNull
  | default (e : Expr)
  | primaryKey (checking : Checking)
  | unique (checking : Checking)
  | references (target : Reference)
  | check (condition : Expr) (enforced : Option Bool)
  /-- One of `AUTO_INCREMENT`, `AUTOINCREMENT`, `ASC` and `DESC`. -/
  | keyword (word : String)
  | characterSet (name : Path)
  | collation (name : Path)
  | comment (text : String)
  | onUpdate (e : Expr)
  | identity (always : Bool) (options : List SequenceOption)
  /-- A value computed from other columns, with the keyword for where it is kept. -/
  | computed (generated : Bool) (e : Expr) (storage : Option String)
  | srid (e : Expr)
  | onConflict (action : String)
  | invisible

/-- A column of a table; each option may have a name. -/
structure ColumnDefinition where
  name : Name
  type : DataType
  options : List (Option Name × ColumnOption)

/-- A column of a key, with an operator class and the keywords for its order. -/
structure KeyColumn where
  e : Expr
  operatorClass : Option Name
  order : String

/-- A constraint of a table, with its name. -/
inductive TableConstraint where
  | primaryKey (name : Option Name) (index : String) (columns : List KeyColumn) (rest : String)
  | unique (name : Option Name) (index : String) (columns : List KeyColumn) (rest : String)
  | foreignKey (name : Option Name) (index : String) (columns : List Name) (target : Reference)
  | check (name : Option Name) (condition : Expr) (enforced : Option Bool)
  /-- An index under the keywords before its columns. -/
  | index (keywords : String) (columns : List KeyColumn) (rest : String)

/-- A new table. -/
structure TableDefinition where
  orReplace : Bool
  /-- The keywords before `TABLE`. -/
  kind : List String
  ifNotExists : Bool
  name : Path
  columns : List ColumnDefinition
  constraints : List TableConstraint
  /-- The keyword and the name of a table that this one is made after. -/
  model : Option (String × Path)
  /-- The clauses before the query. -/
  clauses : List Piece
  query : Option Query

/-- What a new type is. -/
inductive TypeBody where
  | enum (labels : List Name)
  | range (options : List String)
  | composite (attributes : List (Name × DataType × Option Path))
  | base (options : List String)
  | none

/-- A new domain: a type under another name. -/
structure DomainDefinition where
  name : Path
  type : DataType
  collation : Option Name
  default : Option Expr
  constraints : List TableConstraint

/-- A new view. -/
structure ViewDefinition where
  orAlter : Bool
  orReplace : Bool
  /-- Keywords behind these, which say how the view is run. -/
  parameters : String
  secure : Bool
  materialized : Bool
  temporary : Bool
  ifNotExists : Bool
  /-- Whether the name stands before `IF NOT EXISTS`. -/
  nameFirst : Bool
  name : Path
  columns : List Name
  options : List Piece
  query : Query

/-- A comment on an object. -/
structure Comment where
  ifExists : Bool
  /-- The keyword for the kind of object. -/
  object : String
  name : Path
  text : Option String

/-- A statement. -/
inductive Statement where
  | table (t : TableDefinition)
  | type (name : Path) (body : TypeBody)
  | domain (d : DomainDefinition)
  | comment (c : Comment)
  | view (v : ViewDefinition)
  | other

end TableTypes.Sql
