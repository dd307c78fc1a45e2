import TableTypes.Symbol.Table
import TableTypes.TypeScript.Syntax

/-!
# Enums of labels

An enum declaration for a list of labels: the values are the labels, and the keys are identifiers
made from them, told apart by numbers where two labels give one name.
-/

namespace TableTypes.TypeScript

/-- The members for the remaining labels, where `keys` holds the keys given so far. -/
def enumMembersFrom (keys : SymbolTable Unit) : List String → List EnumMember
  | [] => []
  | label :: rest =>
    let (key, keys) := keys.register label ()
    { key, value := .text label } :: enumMembersFrom keys rest

/-- The enum members for some labels, with keys in the given style. -/
def enumMembers (style : Naming.IdentifierStyle) (labels : List String) : List EnumMember :=
  enumMembersFrom (.empty style) labels

end TableTypes.TypeScript
