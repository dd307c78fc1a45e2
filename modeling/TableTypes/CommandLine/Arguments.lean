import TableTypes.CommandLine.Flag
import TableTypes.Settings.Flags
import TableTypes.Settings.Read

/-!
# Arguments of the command line

What the arguments ask for, and settings with the arguments over them. A flag stands at most once
except for `--default-schema`, and before the command.
-/

namespace TableTypes.CommandLine

/-- What the program is to do. -/
inductive Command where
  | generate
  | inspect
  deriving DecidableEq, Repr

/-- The arguments of the command line. Maps are still JSON. -/
structure Arguments where
  command : Command := .generate
  config : Option String := none
  schema : Option String := none
  dialect : Option Dialect := none
  outFile : Option String := none
  print : Bool := false
  verify : Bool := false
  camelCase : Bool := false
  defaultSchemas : List String := []
  includePattern : Option String := none
  excludePattern : Option String := none
  partitions : Bool := false
  runtimeEnums : Option Naming.IdentifierStyle := none
  singularize : Bool := false
  overrides : Option String := none
  customImports : Option String := none
  typeMapping : Option String := none
  noTypeOnlyImports : Bool := false
  logLevel : Option String := none
  deriving DecidableEq, Repr

/-- What the arguments ask for. -/
inductive Request where
  | run (arguments : Arguments)
  | help
  | version
  deriving DecidableEq, Repr

/-- A path, which is not empty. -/
def pathOf? (value : String) : Option String :=
  if value.isEmpty then none else some value

/-- The style that `--runtime-enums` stands for without a value. -/
def defaultStyle : String := "screaming-snake-case"

namespace Arguments

/-- The arguments with one flag more. A flag without a value has none. -/
def set? (a : Arguments) (flag : Flag) (value : Option String) : Option Arguments :=
  let text := value.getD ""
  match flag with
  | .config => (pathOf? text).map fun path => { a with config := some path }
  | .schema => (pathOf? text).map fun path => { a with schema := some path }
  | .dialect => (dialectOfWord? text).map fun dialect => { a with dialect := some dialect }
  | .outFile => (pathOf? text).map fun path => { a with outFile := some path }
  | .print => some { a with print := true }
  | .verify => some { a with verify := true }
  | .camelCase => some { a with camelCase := true }
  | .defaultSchema => some { a with defaultSchemas := a.defaultSchemas ++ [text] }
  | .includePattern => some { a with includePattern := some text }
  | .excludePattern => some { a with excludePattern := some text }
  | .partitions => some { a with partitions := true }
  | .runtimeEnums =>
    (styleOfWord? (value.getD defaultStyle)).map fun style => { a with runtimeEnums := some style }
  | .singularize => some { a with singularize := true }
  | .overrides => some { a with overrides := some text }
  | .customImports => some { a with customImports := some text }
  | .typeMapping => some { a with typeMapping := some text }
  | .noTypeOnlyImports => some { a with noTypeOnlyImports := true }
  | .logLevel => some { a with logLevel := some text }
  | .help => none
  | .version => none

end Arguments

/-- The arguments read so far, with the flags that stood among them. -/
structure Progress where
  arguments : Arguments := {}
  seen : List Flag := []

/-- The progress with one flag more. -/
def Progress.set? (p : Progress) (flag : Flag) (value : Option String) : Option Progress :=
  if flag ≠ .defaultSchema && p.seen.contains flag then none
  else (p.arguments.set? flag value).map fun arguments => { arguments, seen := flag :: p.seen }

/-- Whether an argument can be the value of the flag before it. -/
def isValue (argument : String) : Bool :=
  argument = "-" || argument.toList.head? ≠ some '-'

/-- The command of a word and what it asks for with the arguments behind it, which can only ask for
help. -/
def readCommand? (p : Progress) (word : String) (rest : List String) : Option Request :=
  let isCommand (word : String) : Bool := ["generate", "inspect", "help"].contains word
  let run (command : Command) : Option Request :=
    match rest with
    | [] => some (.run { p.arguments with command })
    | first :: others =>
      if first = "--help" || first.toList.take 2 = ['-', 'h'] then some .help
      else if first = "--" && others.isEmpty then some (.run { p.arguments with command })
      else none
  match word with
  | "generate" => run .generate
  | "inspect" => run .inspect
  | "help" =>
    match rest with
    | [] => some .help
    | [word] => if isCommand word then some .help else none
    | _ => none
  | _ => none

/-- A flag with the value that is attached to it, as it stands in one argument. -/
inductive Word where
  | flag (flag : Flag) (attached : Option String)
  /-- Two dashes. -/
  | dashes
  | plain
  /-- A flag that there is not. -/
  | unknown

/-- What one argument is. -/
def Word.ofArgument (argument : String) : Word :=
  match argument.toList with
  | ['-', '-'] => .dashes
  | '-' :: '-' :: rest =>
    match Text.cut? '=' rest with
    | some (name, value) =>
      match Flag.ofName? (String.ofList name) with
      | some f => .flag f (some (String.ofList value))
      | none => .unknown
    | none =>
      match Flag.ofName? (String.ofList rest) with
      | some f => .flag f none
      | none => .unknown
  | '-' :: letter :: rest =>
    match Flag.ofLetter? letter with
    | none => .unknown
    | some f =>
      if f.arity = .none then .flag f none
      else
        match rest with
        | [] => .flag f none
        | '=' :: value => .flag f (some (String.ofList value))
        | value => .flag f (some (String.ofList value))
  | _ => .plain

/-- Reads arguments behind those that have been read. -/
def readFrom? (p : Progress) : List String → Option Request
  | [] => some (.run p.arguments)
  | argument :: rest =>
    match Word.ofArgument argument with
    | .dashes => if rest.isEmpty then some (.run p.arguments) else none
    | .unknown => none
    | .plain => readCommand? p argument rest
    | .flag flag attached =>
      match flag.arity, attached with
      | .none, some _ => none
      | .none, none =>
        if flag = .help then some .help
        else if flag = .version then some .version
        else (p.set? flag none).bind fun p => readFrom? p rest
      | .optional, value => (p.set? flag value).bind fun p => readFrom? p rest
      | .value, some value => (p.set? flag (some value)).bind fun p => readFrom? p rest
      | .value, none =>
        match rest with
        | [] => none
        | value :: rest =>
          if isValue value then (p.set? flag (some value)).bind fun p => readFrom? p rest
          else none

/-- Reads the arguments of the command line. -/
def read? (arguments : List String) : Option Request :=
  readFrom? {} arguments

/-! ## Settings with the arguments over them -/

namespace Arguments

/-- The map that a flag gives; without the flag there is none. -/
def mapOf (parse : String → Except SettingsFault (Dictionary String)) (json : Option String) :
    Except SettingsFault (Dictionary String) :=
  match json with
  | some json => parse json
  | none => .ok []

/-- Settings with the arguments over them. A flag that is given wins, and of a map each entry that
is given does. -/
def apply (a : Arguments) (s : Settings) : Except SettingsFault Settings := do
  let overrides ← mapOf parseOverrides a.overrides
  let customImports ← mapOf (parseTextMap "custom-imports") a.customImports
  let typeMapping ← mapOf (parseTextMap "type-mapping") a.typeMapping
  return {
    schemaFile := a.schema.getD s.schemaFile
    dialect := a.dialect.getD s.dialect
    outFile := a.outFile.getD s.outFile
    print := s.print || a.print
    verify := s.verify || a.verify
    camelCase := s.camelCase || a.camelCase
    defaultSchemas := if a.defaultSchemas.isEmpty then s.defaultSchemas else a.defaultSchemas
    includePattern := a.includePattern.or s.includePattern
    excludePattern := a.excludePattern.or s.excludePattern
    partitions := s.partitions || a.partitions
    runtimeEnums := a.runtimeEnums.or s.runtimeEnums
    singularize := s.singularize || a.singularize
    singularRules := s.singularRules
    typeOnlyImports := s.typeOnlyImports && !a.noTypeOnlyImports
    overrides := s.overrides.override overrides
    customImports := s.customImports.override customImports
    typeMapping := s.typeMapping.override typeMapping
    logLevel := a.logLevel.or s.logLevel }

end Arguments

end TableTypes.CommandLine
