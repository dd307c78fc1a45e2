import TableTypes.Json.Reader

/-!
# Quoted text of TOML

Text in double quotes has escapes, text in single quotes has none. Three quotes enclose text of
several lines.
-/

namespace TableTypes.Toml

/-- Whether a character can stand in a line. -/
def isVisible (c : Char) : Bool :=
  c = '\t' || (32 ≤ c.toNat && c.toNat ≠ 127)

/-- The text behind a line break at its beginning. -/
def dropNewline? : List Char → Option (List Char)
  | '\n' :: rest => some rest
  | '\r' :: '\n' :: rest => some rest
  | _ => none

/-- The text behind blanks in a line. -/
def dropBlanks (cs : List Char) : List Char :=
  cs.dropWhile fun c => c = ' ' || c = '\t'

/-- A character by the hexadecimal digits of its number. -/
def numberedChar? (digits : List Char) : Option Char := do
  let n ← Json.hexNumber? digits
  if n < 0xd800 ∨ (0xe000 ≤ n ∧ n < 0x110000) then return Char.ofNat n else none

/-- A character behind a backslash, and the rest. -/
def readEscape? (cs : List Char) : Option (Char × List Char) :=
  let numbered (count : Nat) (rest : List Char) : Option (Char × List Char) :=
    if rest.length < count then none
    else (numberedChar? (rest.take count)).map fun c => (c, rest.drop count)
  match cs with
  | 'x' :: rest => numbered 2 rest
  | 'u' :: rest => numbered 4 rest
  | 'U' :: rest => numbered 8 rest
  | 'e' :: rest => some ('\x1b', rest)
  | '/' :: _ => none
  | c :: rest => (Json.escaped? c).map fun c => (c, rest)
  | [] => none

/-- The text up to a closing double quote, and the rest; each turn takes a character at least. -/
def readBasic? : Nat → List Char → Option (List Char × List Char)
  | 0, _ => none
  | _ + 1, [] => none
  | _ + 1, '"' :: rest => some ([], rest)
  | fuel + 1, '\\' :: rest => do
    let (c, rest) ← readEscape? rest
    let (text, rest) ← readBasic? fuel rest
    return (c :: text, rest)
  | fuel + 1, c :: rest =>
    if isVisible c then (readBasic? fuel rest).map fun (text, rest) => (c :: text, rest) else none

/-- The text up to a closing single quote, and the rest. -/
def readLiteral? : List Char → Option (List Char × List Char)
  | [] => none
  | c :: rest =>
    if c = '\'' then some ([], rest)
    else if isVisible c then (readLiteral? rest).map fun (text, rest) => (c :: text, rest)
    else none

/-- The text behind blanks and line breaks. -/
def dropGap (cs : List Char) : List Char :=
  cs.dropWhile fun c => c = ' ' || c = '\t' || c = '\n' || c = '\r'

/-- The text behind a backslash that ends its line, up to the next character that is not blank. -/
def joinLines? (cs : List Char) : Option (List Char) :=
  (dropNewline? (dropBlanks cs)).map dropGap

/-- A run of quotes that closes text of several lines: all but three of them belong to the text, at
most two. -/
def closeLines? (quote : Char) (cs : List Char) : Option (List Char × List Char) :=
  let count := (cs.takeWhile (· = quote)).length
  if count < 3 then none
  else
    let kept := min (count - 3) 2
    some (List.replicate kept quote, cs.drop (kept + 3))

/-- Text of several lines up to its closing quotes, and the rest; each turn takes a character at
least. -/
def readLines? (quote : Char) : Nat → List Char → Option (List Char × List Char)
  | 0, _ => none
  | _ + 1, [] => none
  | fuel + 1, c :: rest =>
    match closeLines? quote (c :: rest) with
    | some closed => some closed
    | none =>
      if c = '\\' && quote = '"' then
        match joinLines? rest with
        | some rest => readLines? quote fuel rest
        | none => do
          let (c, rest) ← readEscape? rest
          let (text, rest) ← readLines? quote fuel rest
          return (c :: text, rest)
      else
        match dropNewline? (c :: rest) with
        | some rest => (readLines? quote fuel rest).map fun (text, rest) => ('\n' :: text, rest)
        | none =>
          if isVisible c then
            (readLines? quote fuel rest).map fun (text, rest) => (c :: text, rest)
          else none

/-- Quoted text of one line, and the rest. -/
def readQuoted? : List Char → Option (String × List Char)
  | '"' :: rest =>
    (readBasic? (rest.length + 1) rest).map fun (text, rest) => (String.ofList text, rest)
  | '\'' :: rest => (readLiteral? rest).map fun (text, rest) => (String.ofList text, rest)
  | _ => none

/-- Quoted text of one or several lines, and the rest. -/
def readText? (cs : List Char) : Option (String × List Char) :=
  let lines (quote : Char) (rest : List Char) : Option (String × List Char) :=
    let rest := (dropNewline? rest).getD rest
    (readLines? quote (rest.length + 1) rest).map fun (text, rest) => (String.ofList text, rest)
  match cs with
  | '"' :: '"' :: '"' :: rest => lines '"' rest
  | '\'' :: '\'' :: '\'' :: rest => lines '\'' rest
  | cs => readQuoted? cs

end TableTypes.Toml
