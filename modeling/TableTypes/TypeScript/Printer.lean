import TableTypes.Naming.Style
import TableTypes.Text.Lines
import TableTypes.Text.Quoted
import TableTypes.TypeScript.Syntax
import TableTypes.Unicode.Blank

/-!
# Printing declarations

The text of type expressions, declarations and whole files. Object members and the branches of a
conditional type stand on lines of their own, indented by two spaces a level.
-/

namespace TableTypes.TypeScript

/-- The blanks before a line at a nesting depth. -/
def indent (depth : Nat) : String :=
  String.ofList (List.replicate (2 * depth) ' ')

/-- The text of a literal type. -/
def Literal.print : Literal → String
  | text value => Text.quote value
  | number value => value.text

/-- A property key, in quotes unless it is a plain identifier. -/
def printKey (key : String) : String :=
  if Naming.isIdentifier key.toList then key else Text.quote key

/-- A text with a backslash inside each end-of-comment mark. -/
def guardComment : List Char → List Char
  | '*' :: '/' :: rest => '*' :: '\\' :: '/' :: guardComment rest
  | c :: rest => c :: guardComment rest
  | [] => []

/-- One line of a documentation comment. -/
def printCommentLine (margin : String) (line : String) : String :=
  if line.toList.all Unicode.isBlank then margin ++ " *\n"
  else margin ++ " * " ++ String.ofList (Unicode.trimEnd line.toList) ++ "\n"

/-- A documentation comment as a block of lines. -/
def printComment (margin : String) (comment : String) : String :=
  margin ++ "/**\n"
    ++ String.join ((Text.lines (String.ofList (guardComment comment.toList))).map
        (printCommentLine margin))
    ++ margin ++ " */\n"

/-- Whether an array of such elements is written with parentheses around the element. -/
def TypeExpr.needsParens : TypeExpr → Bool
  | .union _ => true
  | .conditional .. => true
  | .infer _ => true
  | _ => false

mutual

/-- The text of a type expression on a line of the given depth. -/
def TypeExpr.print (depth : Nat) : TypeExpr → String
  | .name n _ => n
  | .literal value => value.print
  | .array element =>
    if element.needsParens then "(" ++ element.print depth ++ ")[]"
    else element.print depth ++ "[]"
  | .union members => " | ".intercalate (printAll depth members)
  | .object properties =>
    if properties.isEmpty then "\x7b\x7d"
    else "\x7b\n" ++ printProperties (depth + 1) properties ++ indent depth ++ "\x7d"
  | .generic head args => head ++ "<" ++ ", ".intercalate (printAll depth args) ++ ">"
  | .infer n => "infer " ++ n
  | .conditional check extended whenTrue whenFalse =>
    check ++ " extends " ++ extended.print depth
      ++ "\n" ++ indent (depth + 1) ++ "? " ++ whenTrue.print (depth + 1)
      ++ "\n" ++ indent (depth + 1) ++ ": " ++ whenFalse.print (depth + 1)
  | .moduleExport reference => reference.exported.getD reference.path
  | .raw code => code

/-- The texts of several type expressions. -/
def printAll (depth : Nat) : List TypeExpr → List String
  | [] => []
  | e :: es => e.print depth :: printAll depth es

/-- The lines of some properties. -/
def printProperties (depth : Nat) : List (Property TypeExpr) → String
  | [] => ""
  | p :: ps => printProperty depth p ++ printProperties depth ps

/-- The lines of a property: its comment, if any, and `key: type;`. -/
def printProperty (depth : Nat) : Property TypeExpr → String
  | ⟨key, value, comment⟩ =>
    comment.elim "" (printComment (indent depth))
      ++ indent depth ++ printKey key ++ ": " ++ value.print depth ++ ";\n"

end

/-- The text of an object type or of the body of an interface. -/
def printMembers (depth : Nat) (members : Members) : String :=
  (TypeExpr.object members).print depth

/-- The text of a declaration. -/
def Declaration.print : Declaration → String
  | .typeAlias name (.plain body) => "type " ++ name ++ " = " ++ body.print 0 ++ ";"
  | .typeAlias name (.template params body) =>
    "type " ++ name ++ "<" ++ ", ".intercalate params ++ "> = " ++ body.print 0 ++ ";"
  | .interface name members => "interface " ++ name ++ " " ++ printMembers 0 members
  | .enum name members =>
    "enum " ++ name ++ " \x7b\n"
      ++ String.join (members.map fun m => indent 1 ++ m.key ++ " = " ++ m.value.print ++ ",\n")
      ++ "\x7d"

/-- The text of an import clause. -/
def ImportClause.print (c : ImportClause) : String :=
  match c.local? with
  | some l => c.name ++ " as " ++ l
  | none => c.name

/-- The text of an import statement. -/
def printImport (typeOnly : Bool) (path : String) (clauses : List ImportClause) : String :=
  (if typeOnly then "import type" else "import") ++ " \x7b "
    ++ ", ".intercalate (clauses.map ImportClause.print) ++ " \x7d from " ++ Text.quote path ++ ";"

/-- The banner of every generated file. -/
def header : String :=
  "/**\n * This file was generated by typegen.\n * Please do not edit it manually.\n */\n"

/-- The statements of a file; an import statement after another one stands directly below it, and
any other statement after a blank line. -/
def printStatements (typeOnly afterImport : Bool) : List Statement → String
  | [] => ""
  | .imports path clauses :: rest =>
    (if afterImport then "" else "\n") ++ printImport typeOnly path clauses ++ "\n"
      ++ printStatements typeOnly true rest
  | .exports declaration :: rest =>
    "\nexport " ++ declaration.print ++ "\n" ++ printStatements typeOnly false rest

/-- The text of a generated file. -/
def printFile (typeOnly : Bool) (statements : List Statement) : String :=
  header ++ printStatements typeOnly false statements

end TableTypes.TypeScript
