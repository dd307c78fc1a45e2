import TableTypes.Toml.Quoted
import TableTypes.Toml.Scalar
import TableTypes.Toml.Tree

/-!
# Documents of TOML

A document is a list of lines: headers of tables, headers of tables in arrays, and keys with their
values, which belong to the table of the last header.
-/

namespace TableTypes.Toml

/-- Whether a character can stand in a key without quotes. -/
def isBareKeyChar (c : Char) : Bool :=
  c.isAlphanum || c = '_' || c = '-'

/-- One part of a key, and the rest. -/
def readKeyPart? (cs : List Char) : Option (String × List Char) :=
  match readQuoted? cs with
  | some part => some part
  | none =>
    match cs.span isBareKeyChar with
    | ([], _) => none
    | (word, rest) => some (String.ofList word, rest)

/-- A key with the parts between its dots, and the rest; each turn takes a character at least. -/
def readKeyParts? : Nat → List Char → Option (List String × List Char)
  | 0, _ => none
  | fuel + 1, cs => do
    let (part, rest) ← readKeyPart? cs
    match dropBlanks rest with
    | '.' :: rest =>
      let (parts, rest) ← readKeyParts? fuel (dropBlanks rest)
      return (part :: parts, rest)
    | rest => return ([part], rest)

/-- A key, and the rest. -/
def readKey? (cs : List Char) : Option (List String × List Char) :=
  readKeyParts? (cs.length + 1) cs

/-- The text behind a comment, if one begins here. -/
def dropComment (cs : List Char) : List Char :=
  match cs with
  | '#' :: rest => rest.dropWhile isVisible
  | cs => cs

/-- The text behind blanks, comments and line breaks; each turn takes a character at least. -/
def dropLinesFrom : Nat → List Char → List Char
  | 0, cs => cs
  | fuel + 1, cs =>
    match dropNewline? (dropComment (dropBlanks cs)) with
    | some rest => dropLinesFrom fuel rest
    | none => dropBlanks cs

/-- The text behind blanks, comments and line breaks. -/
def dropLines (cs : List Char) : List Char :=
  dropLinesFrom (cs.length + 1) cs

/-- Items with commas between them up to a closing sign. A comma may stand behind the last one; each
turn takes a character at least. -/
def readItems? {α : Type} (closing : Char) (item : List Char → Option (α × List Char)) :
    Nat → List Char → Option (List α × List Char)
  | 0, _ => none
  | fuel + 1, cs =>
    match dropLines cs with
    | [] => none
    | c :: rest =>
      if c = closing then some ([], rest)
      else do
        let (first, rest) ← item (c :: rest)
        match dropLines rest with
        | ',' :: rest =>
          let (items, rest) ← readItems? closing item fuel rest
          return (first :: items, rest)
        | c :: rest => if c = closing then return ([first], rest) else none
        | [] => none

/-- A key and its value, and the rest. -/
def readPair? (value : List Char → Option (Value × List Char)) (cs : List Char) :
    Option ((List String × Value) × List Char) := do
  let (keys, rest) ← readKey? cs
  match rest with
  | '=' :: rest =>
    let (v, rest) ← value (dropBlanks rest)
    return ((keys, v), rest)
  | _ => none

/-- Whether a character can stand in a value without quotes. -/
def isScalarChar (c : Char) : Bool :=
  c.isAlphanum || ['_', '+', '-', '.', ':'].contains c

/-- Whether the time of day that belongs to a date comes next behind a blank. -/
def timeFollows (word rest : List Char) : Bool :=
  match readDate? word, rest with
  | some (_, []), ' ' :: c :: _ => c.isDigit
  | _, _ => false

/-- A value without quotes, and the rest. -/
def readWord? (cs : List Char) : Option (Value × List Char) :=
  let (word, rest) := cs.span isScalarChar
  let (word, rest) :=
    if timeFollows word rest then
      let (time, rest) := (rest.drop 1).span isScalarChar
      (word ++ ' ' :: time, rest)
    else (word, rest)
  (readScalar? word).map fun v => (v, rest)

/-- The table of some keys and values. -/
def inlineTable? (pairs : List (List String × Value)) : Option Value :=
  (pairs.foldlM (fun entries (keys, v) => addValue keys v .header entries) []).map fun entries =>
    .table (entryValues entries)

/-- A value nested less deep than the first number, and the rest. -/
def readValue? : Nat → List Char → Option (Value × List Char)
  | 0, _ => none
  | depth + 1, cs =>
    match cs with
    | '[' :: rest =>
      (readItems? ']' (readValue? depth) (rest.length + 1) rest).map fun (items, rest) =>
        (.array items, rest)
    | '\x7b' :: rest => do
      let (pairs, rest) ← readItems? '\x7d' (readPair? (readValue? depth)) (rest.length + 1) rest
      return (← inlineTable? pairs, rest)
    | cs =>
      if cs.head? = some '"' || cs.head? = some '\'' then
        (readText? cs).map fun (s, rest) => (.text s, rest)
      else readWord? cs

/-- How deep values may be nested. -/
def maxDepth : Nat := 80

/-- A line of a document. -/
inductive Line where
  | table (keys : List String)
  | item (keys : List String)
  | pair (keys : List String) (v : Value)

/-- The text behind a sign and the blanks before it. -/
def dropSign? (sign : Char) (cs : List Char) : Option (List Char) :=
  match dropBlanks cs with
  | c :: rest => if c = sign then some rest else none
  | [] => none

/-- A line that is neither blank nor a comment, and the rest. -/
def readLine? (cs : List Char) : Option (Line × List Char) :=
  match cs with
  | '[' :: '[' :: rest => do
    let (keys, rest) ← readKey? (dropBlanks rest)
    match ← dropSign? ']' rest with
    | ']' :: rest => return (.item keys, rest)
    | _ => none
  | '[' :: rest => do
    let (keys, rest) ← readKey? (dropBlanks rest)
    return (.table keys, ← dropSign? ']' rest)
  | cs => (readPair? (readValue? maxDepth) cs).map fun ((keys, v), rest) => (.pair keys v, rest)

/-- The lines of a document; each turn takes a character at least. -/
def readDocument? : Nat → List Char → Option (List Line)
  | 0, _ => none
  | fuel + 1, cs =>
    match dropLines cs with
    | [] => some []
    | '#' :: rest => if rest.all isVisible then some [] else none
    | cs => do
      let (line, rest) ← readLine? cs
      match dropComment (dropBlanks rest) with
      | [] => return [line]
      | rest =>
        let rest ← dropNewline? rest
        return line :: (← readDocument? fuel rest)

/-- A document as far as it has been read: its entries and the keys of the last header. -/
structure Progress where
  entries : Entries := []
  current : List String := []

/-- A document with one more line. -/
def Progress.add? (p : Progress) : Line → Option Progress
  | .table keys => (addTable keys p.entries).map fun entries => { entries, current := keys }
  | .item keys => (addItem keys p.entries).map fun entries => { entries, current := keys }
  | .pair keys v =>
    (within false (addValue keys v) p.current .header p.entries).map fun entries =>
      { p with entries }

/-- Reads a document. -/
def read? (s : String) : Option Value := do
  let cs :=
    match s.toList with
    | '\ufeff' :: rest => rest
    | cs => cs
  let lines ← readDocument? (cs.length + 1) cs
  let p ← lines.foldlM (fun (p : Progress) line => p.add? line) {}
  return .table (entryValues p.entries)

end TableTypes.Toml
