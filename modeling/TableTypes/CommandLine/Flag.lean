/-!
# Flags

The flags of the command line by name and by letter.
-/

namespace TableTypes.CommandLine

/-- A flag. -/
inductive Flag where
  | config
  | schema
  | dialect
  | outFile
  | print
  | verify
  | camelCase
  | defaultSchema
  | includePattern
  | excludePattern
  | partitions
  | runtimeEnums
  | singularize
  | overrides
  | customImports
  | typeMapping
  | noTypeOnlyImports
  | logLevel
  | help
  | version
  deriving DecidableEq, Repr

/-- What stands with a flag. -/
inductive Arity where
  /-- Nothing. -/
  | none
  /-- A value, behind an equals sign or as the next argument. -/
  | value
  /-- A value behind an equals sign, or nothing. -/
  | optional
  deriving DecidableEq, Repr

namespace Flag

/-- The flag of a name. -/
def ofName? : String → Option Flag
  | "config" => some config
  | "schema" => some schema
  | "dialect" => some dialect
  | "out-file" => some outFile
  | "print" => some print
  | "verify" => some verify
  | "camel-case" => some camelCase
  | "default-schema" => some defaultSchema
  | "include-pattern" => some includePattern
  | "exclude-pattern" => some excludePattern
  | "partitions" => some partitions
  | "runtime-enums" => some runtimeEnums
  | "singularize" => some singularize
  | "overrides" => some overrides
  | "custom-imports" => some customImports
  | "type-mapping" => some typeMapping
  | "no-type-only-imports" => some noTypeOnlyImports
  | "log-level" => some logLevel
  | "help" => some help
  | "version" => some version
  | _ => none

/-- The flag of a letter. -/
def ofLetter? : Char → Option Flag
  | 'c' => some config
  | 's' => some schema
  | 'd' => some dialect
  | 'o' => some outFile
  | 'h' => some help
  | 'V' => some version
  | _ => none

/-- What stands with a flag. -/
def arity : Flag → Arity
  | print => .none
  | verify => .none
  | camelCase => .none
  | partitions => .none
  | singularize => .none
  | noTypeOnlyImports => .none
  | help => .none
  | version => .none
  | runtimeEnums => .optional
  | _ => .value

end Flag

end TableTypes.CommandLine
