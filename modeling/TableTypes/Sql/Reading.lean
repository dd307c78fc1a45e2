import TableTypes.Pattern.CharSet
import TableTypes.Sql.Labels
import TableTypes.Unicode.Fold

/-!
# What canonical text declares

Enums, domains, comments, views and checks are read off the canonical text of statements and
constraints, in which names are runs of characters without blanks. Each reader takes the whole text
or refuses it.
-/

namespace TableTypes.Sql

/-- Passes over a word in any letter case. -/
def word? : List Char → List Char → Option (List Char)
  | [], cs => some cs
  | _ :: _, [] => none
  | w :: word, c :: rest => if Unicode.foldEq w c then word? word rest else none

/-- Passes over blanks, at least one. -/
def blanks? : List Char → Option (List Char)
  | [] => none
  | c :: rest => if Unicode.isBlank c then some (rest.dropWhile Unicode.isBlank) else none

/-- Passes over some words in any letter case, with blanks behind each of them. -/
def phrase? : List String → List Char → Option (List Char)
  | [], cs => some cs
  | w :: words, cs => do phrase? words (← blanks? (← word? w.toList cs))

/-- Passes over a phrase if it is there. -/
def optionalPhrase (words : List String) (cs : List Char) : List Char :=
  (phrase? words cs).getD cs

/-- Passes over one sign. -/
def sign? (sign : Char) : List Char → Option (List Char)
  | [] => none
  | c :: rest => if c = sign then some rest else none

/-- The characters before the next blank, at least one, and the rest. -/
def run? (cs : List Char) : Option (List Char × List Char) :=
  match cs.span (!Unicode.isBlank ·) with
  | ([], _) => none
  | parts => some parts

/-- Whether no character of a word comes next. -/
def endsWord : List Char → Bool
  | [] => true
  | c :: _ => !Pattern.CharSet.word.contains c

/-- What stands before a sign at the end, not counting blanks at the end. -/
def beforeLast? (sign : Char) (cs : List Char) : Option (List Char) :=
  let cs := Unicode.trimEnd cs
  if cs.getLast? = some sign then some cs.dropLast else none

/-- The text without a double quote or backquote at its beginning. -/
def dropQuote : List Char → List Char
  | [] => []
  | c :: rest => if c = '"' || c = '\x60' then rest else c :: rest

/-- A word of letters and digits that may stand in double quotes or backquotes, and the rest. -/
def quotedWord? (cs : List Char) : Option (List Char × List Char) :=
  match (dropQuote cs).span Pattern.CharSet.word.contains with
  | ([], _) => none
  | (word, rest) => some (word, dropQuote rest)

/-! ## Enums, domains and comments -/

/-- The name and the labels of `CREATE TYPE name AS ENUM (labels)`. -/
def readEnum? (text : String) : Option (String × List String) := do
  let (name, rest) ← run? (← phrase? ["CREATE", "TYPE"] text.toList)
  let rest ← word? "ENUM".toList (← phrase? ["AS"] (← blanks? rest))
  let labels ← beforeLast? ')' (← sign? '(' (rest.dropWhile Unicode.isBlank))
  return (String.ofList name, labelsOf labels)

/-- Whether one of the words that can follow the type of a domain comes next behind blanks. -/
def startsTail (cs : List Char) : Bool :=
  match blanks? cs with
  | none => false
  | some cs =>
    let alone (word : String) : Bool := (word? word.toList cs).any endsWord
    ["COLLATE", "DEFAULT", "CONSTRAINT", "NULL", "CHECK"].any alone ||
      ((phrase? ["NOT"] cs).bind (word? "NULL".toList)).any endsWord

/-- The type of a domain before the words that follow it. -/
def beforeTail : List Char → List Char
  | [] => []
  | c :: rest => if startsTail (c :: rest) then [] else c :: beforeTail rest

/-- The name and the type of `CREATE DOMAIN name AS type`. -/
def readDomain? (text : String) : Option (String × String) := do
  let (name, rest) ← run? (← phrase? ["CREATE", "DOMAIN"] text.toList)
  let type := optionalPhrase ["AS"] (← blanks? rest)
  if type.isEmpty then none
  return (String.ofList name, String.ofList (Unicode.trim (beforeTail (Unicode.trim type))))

/-- A text in which each pair of single quotes has become one. -/
def joinQuotes : List Char → List Char
  | [] => []
  | '\'' :: '\'' :: rest => '\'' :: joinQuotes rest
  | c :: rest => c :: joinQuotes rest

/-- The column and the text of `COMMENT ON COLUMN column IS 'text'`. -/
def readComment? (text : String) : Option (String × String) := do
  let (column, rest) ← run? (← phrase? ["COMMENT", "ON", "COLUMN"] text.toList)
  let body ← sign? '\'' (← phrase? ["IS"] (← blanks? rest))
  if body.getLast? = some '\'' then
    return (String.ofList column, String.ofList (joinQuotes body.dropLast))
  else none

/-! ## Checks -/

/-- The column and the labels of `CHECK (column IN (labels))`, with or without a name for the
constraint. -/
def readCheck? (text : String) : Option (String × List String) := do
  let cs := Unicode.trim text.toList
  let cs ←
    match phrase? ["CONSTRAINT"] cs with
    | some rest => (run? rest).bind fun (_, rest) => blanks? rest
    | none => some cs
  let rest ← sign? '(' ((← word? "CHECK".toList cs).dropWhile Unicode.isBlank)
  let (column, rest) ← quotedWord? (rest.dropWhile Unicode.isBlank)
  let rest ← sign? '(' ((← word? "IN".toList (← blanks? rest)).dropWhile Unicode.isBlank)
  let labels ← beforeLast? ')' (← beforeLast? ')' rest)
  return (String.ofList column, labelsOf labels)

/-! ## Views -/

/-- A view of some columns of one source. -/
structure Projection where
  name : String
  /-- The columns, with commas between them. -/
  items : String
  source : String
  deriving DecidableEq, Repr, Inhabited

/-- The source behind `FROM`, if nothing but a condition follows it. -/
def readSource? (cs : List Char) : Option (List Char) := do
  let (source, rest) ← run? (← phrase? ["FROM"] (← blanks? cs))
  if rest.isEmpty then return source
  let rest ← word? "WHERE".toList (← blanks? rest)
  if endsWord rest then return source else none

/-- The text before the first source and the source. -/
def untilSource? : List Char → Option (List Char × List Char)
  | [] => none
  | c :: rest =>
    match readSource? (c :: rest) with
    | some source => some ([], source)
    | none => (untilSource? rest).map fun (items, source) => (c :: items, source)

/-- The parts of `CREATE VIEW name AS SELECT items FROM source`, with or without a condition. -/
def readView? (text : String) : Option Projection := do
  let cs ← phrase? ["CREATE"] text.toList
  let cs := optionalPhrase ["MATERIALIZED"] (optionalPhrase ["OR", "REPLACE"] cs)
  let cs := optionalPhrase ["IF", "NOT", "EXISTS"] (← phrase? ["VIEW"] cs)
  let (name, rest) ← run? cs
  match ← phrase? ["AS", "SELECT"] (← blanks? rest) with
  | [] => none
  | c :: rest =>
    let (items, source) ← untilSource? rest
    return { name := String.ofList name, items := String.ofList (c :: items),
             source := String.ofList source }

/-- The column of an item of a view and the name that it gets, if it gets another one. -/
def readItem? (item : List Char) : Option (String × Option String) := do
  let (first, rest) ← quotedWord? item
  let (column, rest) ←
    match sign? '.' rest with
    | some rest => quotedWord? rest
    | none => some (first, rest)
  if rest.isEmpty then return (String.ofList column, none)
  let (newName, rest) ← quotedWord? (← phrase? ["AS"] (← blanks? rest))
  if rest.isEmpty then return (String.ofList column, some (String.ofList newName)) else none

end TableTypes.Sql
