import TableTypes.Settings.Basic
import TableTypes.Settings.Value

/-!
# Settings from values

The settings that a value stands for. A setting that is missing has its default, and a value of the
wrong kind makes the whole invalid. How strict this is depends on the source.
-/

namespace TableTypes

/-- A source of settings. -/
inductive Source where
  /-- A file of its own. -/
  | file
  /-- A section of another file. -/
  | part
  /-- A file with variables over it. Values are converted where that can be done. -/
  | layers
  deriving DecidableEq, Repr

namespace Source

/-- The words for true and false in any letter case. -/
def wordFlag? (word : String) : Option Bool :=
  let word := Unicode.lowercase word
  if ["1", "true", "on", "yes"].contains word then some true
  else if ["0", "false", "off", "no"].contains word then some false
  else none

/-- A value as a yes or no. -/
def flag? (source : Source) : Value → Option Bool
  | .boolean b => some b
  | v =>
    if source = .layers then
      match v with
      | .integer n => some (n ≠ 0)
      | .float x => some (x.bits ≠ 0 && x.bits ≠ 0x8000000000000000)
      | .text s => wordFlag? s
      | .moment s => wordFlag? s
      | _ => none
    else none

/-- A value as a text. -/
def text? (source : Source) : Value → Option String
  | .text s => some s
  | .moment s => if source = .file then none else some s
  | v =>
    if source = .layers then
      match v with
      | .boolean b => some (if b then "true" else "false")
      | .integer n => some (toString n)
      | .float x => some x.text
      | _ => none
    else none

/-- A value as texts. -/
def texts? (source : Source) : Value → Option (List String)
  | .array items => items.mapM source.text?
  | _ => none

/-- A value as texts under keys. -/
def textMap? (source : Source) : Value → Option (Dictionary String)
  | .table entries =>
    let read (entry : String × Value) : Option (String × String) :=
      (source.text? entry.2).map fun s => (entry.1, s)
    (entries.mapM read).map Dictionary.ofPairs
  | _ => none

/-- A value as one of some words. A table with the word as its only key stands for it too. -/
def word? (source : Source) : Value → Option String
  | .text s => some s
  | .moment s => if source = .file then none else some s
  | .table [(key, v)] =>
    match v with
    | .table [] => some key
    | .array [] => some key
    | _ => if source = .layers then some key else none
  | _ => none

/-- The fields of a record: under their names in a table, or in their order in an array. -/
def fields? (source : Source) (count : Nat) : Value → Option (Nat → String → Option Value)
  | .table entries => some fun _ name => entries.lookup name
  | .array items =>
    if source = .part && count < items.length then none else some fun i _ => items[i]?
  | _ => none

end Source

/-- The dialect of a word in a source of settings. -/
def dialectOfWord? : String → Option Dialect
  | "postgres" => some .postgres
  | "postgresql" => some .postgres
  | "pg" => some .postgres
  | "mysql" => some .mysql
  | "sqlite" => some .sqlite
  | _ => none

/-- The style of enum members of a word in a source of settings. -/
def styleOfWord? : String → Option Naming.IdentifierStyle
  | "pascal-case" => some .pascal
  | "screaming-snake-case" => some .screaming
  | _ => none

namespace Settings

/-- The overrides in a value, which are kept by column. -/
def readOverrides? (source : Source) (v : Value) : Option (Dictionary String) := do
  let field ← source.fields? 1 v
  match field 0 "columns" with
  | some columns => source.textMap? columns
  | none => return []

/-- The settings that a value stands for. -/
def read? (source : Source) (v : Value) : Option Settings := do
  let field ← source.fields? 18 v
  let get {α : Type} (i : Nat) (name : String) (default : α) (read : Value → Option α) : Option α :=
    match field i name with
    | some v => read v
    | none => some default
  let optional {α : Type} (i : Nat) (name : String) (read : Value → Option α) : Option (Option α) :=
    match field i name with
    | some .null => some none
    | some v => (read v).map some
    | none => some none
  let base : Settings := {}
  return {
    schemaFile := ← get 0 "schema_file" base.schemaFile source.text?
    dialect := ← get 1 "dialect" base.dialect fun v => (source.word? v).bind dialectOfWord?
    outFile := ← get 2 "out_file" base.outFile source.text?
    print := ← get 3 "print" base.print source.flag?
    verify := ← get 4 "verify" base.verify source.flag?
    camelCase := ← get 5 "camel_case" base.camelCase source.flag?
    defaultSchemas := ← get 6 "default_schemas" base.defaultSchemas source.texts?
    includePattern := ← optional 7 "include_pattern" source.text?
    excludePattern := ← optional 8 "exclude_pattern" source.text?
    partitions := ← get 9 "partitions" base.partitions source.flag?
    runtimeEnums := ← optional 10 "runtime_enums" fun v => (source.word? v).bind styleOfWord?
    singularize := ← get 11 "singularize" base.singularize source.flag?
    singularRules := ← get 12 "singular_rules" base.singularRules source.textMap?
    typeOnlyImports := ← get 13 "type_only_imports" base.typeOnlyImports source.flag?
    overrides := ← get 14 "overrides" base.overrides (readOverrides? source)
    customImports := ← get 15 "custom_imports" base.customImports source.textMap?
    typeMapping := ← get 16 "type_mapping" base.typeMapping source.textMap?
    logLevel := ← optional 17 "log_level" source.text? }

end Settings

end TableTypes
