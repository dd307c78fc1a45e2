import TableTypes.Symbol.Table
import TableTypes.TypeScript.References

/-!
# Symbols

What can be registered under an id: the interface of a table, a helper definition, an import or an
enum. All but tables are declared in the file under their display names.
-/

namespace TableTypes

open TypeScript

/-- A symbol of a generated file. -/
inductive Symbol where
  | table
  | definition (body : Definition)
  | imported (reference : ModuleExport)
  /-- An enum declaration for the type with the given id. -/
  | enum (typeId : String) (members : List EnumMember)
  deriving Repr

/-- The symbols of a generated file. -/
abbrev Symbols := SymbolTable Symbol

/-- Whether references to a symbol are written with its display name. -/
def Symbol.isRenamed : Symbol → Bool
  | table => false
  | definition _ => true
  | imported _ => true
  | enum _ _ => true

/-- The names that a symbol refers to: those in the body of a definition. -/
def Symbol.references : Symbol → List String
  | table => []
  | definition body => body.references
  | imported _ => []
  | enum _ _ => []

end TableTypes
