import TableTypes.Naming.Words

/-!
# Identifier styles

How column, table and enum names are turned into the names of declarations and keys.
-/

namespace TableTypes.Naming

open Unicode

/-- The camel case of the remaining characters: underscores go, and the character after one becomes
a capital. `after` says whether the character before was an underscore. -/
def camelFrom (after : Bool) : List Char → List Char
  | [] => []
  | c :: rest =>
    if c = '_' then camelFrom true rest
    else (if after then toUpper c else [c]) ++ camelFrom false rest

/-- Every underscore dropped and the character after it made a capital; all else is kept. -/
def camelCase (name : List Char) : List Char :=
  camelFrom false name

/-- Camel case with a capital at the beginning. -/
def camelPascalCase (name : List Char) : List Char :=
  match camelCase name with
  | [] => []
  | c :: rest => toUpper c ++ rest

/-- The words of a name joined by underscores. -/
def underscored (name : List Char) : List Char :=
  ['_'].intercalate (words name)

/-- All words of a name capitalized and joined. -/
def pascalCase (name : List Char) : List Char :=
  (caseWords (underscored name)).flatMap capitalize

/-- All words of a name in capitals, with underscores between them. -/
def screamingCase (name : List Char) : List Char :=
  ['_'].intercalate ((caseWords (underscored name)).map (·.flatMap toUpper))

/-- The ways to derive a declared name. -/
inductive IdentifierStyle where
  | pascal
  | screaming
  deriving DecidableEq, Repr, Inhabited

/-- The name of a style. -/
def IdentifierStyle.convert : IdentifierStyle → List Char → List Char
  | .pascal => camelPascalCase
  | .screaming => screamingCase

/-- Whether a character may begin a plain identifier. -/
def startsIdentifier (c : Char) : Bool :=
  c.isAlpha || c = '_' || c = '$'

/-- Whether a character may stand in a plain identifier. -/
def continuesIdentifier (c : Char) : Bool :=
  c.isAlphanum || c = '_' || c = '$'

/-- Whether a name can be a property key without quotes: ASCII letters, digits, `_` and `$`, with no
digit first. -/
def isIdentifier (name : List Char) : Bool :=
  match name with
  | [] => false
  | c :: rest => startsIdentifier c && rest.all continuesIdentifier

end TableTypes.Naming
