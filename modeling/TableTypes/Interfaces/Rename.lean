import TableTypes.Symbol.Basic
import TableTypes.Unicode.Alphanumeric

/-!
# Display names in type expressions

Types refer to symbols by id until all symbols are known. Then the ids are replaced by the display
names, also inside type text of the user, where each run of letters, numbers, underscores and dollar
signs counts as a name unless a dot stands before it.
-/

namespace TableTypes

open TypeScript

/-- Whether a character belongs to a name in type text. -/
def isNameChar (c : Char) : Bool :=
  Unicode.isAlphanumeric c || c = '_' || c = '$'

/-- The display name that a reference is replaced by, if it names a declared symbol and is no
template parameter. -/
def SymbolTable.rename? (symbols : Symbols) (params : List String) (name : String) :
    Option String :=
  if params.contains name then none
  else
    match symbols.find? name with
    | some e => if e.symbol.isRenamed then some e.name else none
    | none => none

/-- Replaces a name unless it follows a dot. -/
def renameWord (symbols : Symbols) (params : List String) (afterDot : Bool) (word : List Char) :
    List Char :=
  match symbols.rename? params (String.ofList word) with
  | some name => if afterDot then word else name.toList
  | none => word

/-- Replaces the names in the rest of a text. `word` holds the letters of the name begun, in reverse,
and `dot` says whether the text written before it ends in a dot. -/
def renameTextFrom (symbols : Symbols) (params : List String) (dot : Bool) (word : List Char) :
    List Char → List Char
  | [] => if word.isEmpty then [] else renameWord symbols params dot word.reverse
  | c :: rest =>
    if isNameChar c then renameTextFrom symbols params dot (c :: word) rest
    else
      let written := if word.isEmpty then [] else renameWord symbols params dot word.reverse
      written ++ c :: renameTextFrom symbols params (c = '.') [] rest

/-- Replaces the names in type text. -/
def renameText (symbols : Symbols) (params : List String) (text : String) : String :=
  String.ofList (renameTextFrom symbols params false [] text.toList)

mutual

/-- Replaces the ids in a type expression by display names. -/
def TypeScript.TypeExpr.rename (symbols : Symbols) (params : List String) : TypeExpr → TypeExpr
  | .name n isTable =>
    if isTable then .name n true else .name ((symbols.rename? params n).getD n) false
  | .literal value => .literal value
  | .array element => .array (element.rename symbols params)
  | .union members => .union (renameAll symbols params members)
  | .object properties => .object (renameProperties symbols params properties)
  | .generic head args =>
    .generic ((symbols.rename? params head).getD head) (renameAll symbols params args)
  | .infer n => .infer n
  | .conditional check extended whenTrue whenFalse =>
    .conditional (renameText symbols params check) (extended.rename symbols params)
      (whenTrue.rename symbols params) (whenFalse.rename symbols params)
  | .moduleExport reference => .moduleExport reference
  | .raw code => .raw (renameText symbols params code)

/-- Replaces the ids in some type expressions. -/
def renameAll (symbols : Symbols) (params : List String) : List TypeExpr → List TypeExpr
  | [] => []
  | e :: es => e.rename symbols params :: renameAll symbols params es

/-- Replaces the ids in the types of some properties. -/
def renameProperties (symbols : Symbols) (params : List String) :
    List (Property TypeExpr) → List (Property TypeExpr)
  | [] => []
  | p :: ps => renameProperty symbols params p :: renameProperties symbols params ps

/-- Replaces the ids in the type of a property. -/
def renameProperty (symbols : Symbols) (params : List String) :
    Property TypeExpr → Property TypeExpr
  | ⟨key, value, comment⟩ => ⟨key, value.rename symbols params, comment⟩

end

/-- Replaces the ids in a definition, its parameters apart. -/
def TypeScript.Definition.rename (symbols : Symbols) : Definition → Definition
  | .plain body => .plain (body.rename symbols [])
  | .template params body => .template params (body.rename symbols params)

end TableTypes
