import TableTypes.Interfaces.Options
import TableTypes.Symbol.Collect
import TableTypes.TypeScript.Enum

/-!
# The type of a column

A column takes, in this order: the type mapped to its data type, the scalar of the dialect, the enum
of its name, a symbol of its name, the labels it carries itself, or the default scalar. Arrays,
nullability and default values are wrapped around that.
-/

namespace TableTypes

open TypeScript
open TypeScript.TypeExpr (named unionOf)

/-- The id of the symbol of a table's interface. It differs from all type ids, so a table never
hides a type of its name. -/
def tableSymbolId (identifier : String) : String := "table:" ++ identifier

/-- The id of the symbol of an enum. -/
def enumSymbolId (typeId : String) : String := "enum:" ++ typeId

namespace Context

/-- The id of a named data type: its name, after its schema unless that goes without saying. -/
def typeSymbolId (ctx : Context) (c : Column) (dataType : String) : String :=
  ctx.qualify c.dataTypeSchema dataType

/-- The labels of the enum that a data type names: in its own schema, or else in the first default
schema that has it, or else without a schema. -/
def findEnum? (ctx : Context) (c : Column) (dataType : String) : Option (List String) :=
  match c.dataTypeSchema with
  | some schema => ctx.enums.labels? (schema ++ "." ++ dataType)
  | none =>
    (ctx.defaultSchemas.findSome? fun schema => ctx.enums.labels? (schema ++ "." ++ dataType)).or
      (ctx.enums.labels? dataType)

/-- Whether a data type is known, so that a mapping may apply to it. -/
def isKnownType (ctx : Context) (c : Column) (dataType : String) : Bool :=
  ctx.profile.scalars.has dataType || (ctx.findEnum? c dataType).isSome
    || ctx.profile.isRange dataType

/-- The symbol that declares an enum. -/
def enumSymbol (ctx : Context) (typeId : String) (labels : List String) : Symbol :=
  match ctx.options.runtimeEnums with
  | some style => .enum typeId (enumMembers style labels)
  | none => .definition (.plain (unionOf (labels.map TypeExpr.text)))

/-- The type that a mapping gives a known data type. -/
def mappedType? (ctx : Context) (c : Column) (dataType : String) : Option String :=
  match ctx.options.typeMapping.get? dataType with
  | some mapped => if ctx.isKnownType c dataType then some mapped else none
  | none => none

/-- Registers the namespace before the first dot of a mapped type. -/
def collectNamespace (ctx : Context) (symbols : Symbols) (mapped : String) : Symbols :=
  match Text.cut? '.' mapped.toList with
  | some (space, _) => ctx.library.collectNames symbols [String.ofList space]
  | none => symbols

/-- The alternatives of a column's type before arrays and null are considered. -/
def baseTypes (ctx : Context) (symbols : Symbols) (c : Column) : List TypeExpr × Symbols :=
  let dataType := Unicode.lowercase c.dataType
  match ctx.mappedType? c dataType with
  | some mapped => ([.raw mapped], ctx.collectNamespace symbols mapped)
  | none =>
    match ctx.profile.scalars.get? dataType with
    | some scalar => ([scalar], symbols)
    | none =>
      let typeId := ctx.typeSymbolId c dataType
      match ctx.findEnum? c dataType with
      | some labels =>
        let enumId := enumSymbolId typeId
        ([named enumId], (symbols.registerAs enumId typeId (ctx.enumSymbol typeId labels)).2)
      | none =>
        if symbols.contains typeId then ([named typeId], symbols)
        else
          match c.enumValues with
          | some values => (values.map TypeExpr.text, symbols)
          | none => ([ctx.profile.defaultScalar], symbols)

/-- The array of some alternatives: with brackets for plain scalars, and otherwise by the helper
that makes an array of each part of a column type. -/
def arrayOf (alternatives : List TypeExpr) : TypeExpr :=
  let element := unionOf alternatives
  if element.isSimple then .array element else .generic "ArrayType" [element]

/-- The alternatives of a column's type wrapped as the column demands. -/
def wrapType (c : Column) (alternatives : List TypeExpr) : TypeExpr :=
  let alternatives := if c.isArray then [arrayOf alternatives] else alternatives
  let alternatives := if c.isNullable then alternatives ++ [named "null"] else alternatives
  let type := unionOf alternatives
  if c.hasDefault || c.isAutoIncrementing then .generic "Generated" [type] else type

/-- The type of a column by its metadata, with what it needs registered. -/
def inferredType (ctx : Context) (symbols : Symbols) (c : Column) : TypeExpr × Symbols :=
  let (alternatives, symbols) := ctx.baseTypes symbols c
  let type := wrapType c alternatives
  (type, ctx.library.collect symbols type)

/-- The type of a column: the one that the user has given it, or else the one by its metadata. -/
def columnType (ctx : Context) (symbols : Symbols) (t : Table) (c : Column) :
    TypeExpr × Symbols :=
  match ctx.findOverride? t c with
  | some o => (o.expression, ctx.library.collect symbols o.expression)
  | none => ctx.inferredType symbols c

end Context

end TableTypes
