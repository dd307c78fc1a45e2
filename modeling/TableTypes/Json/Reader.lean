import TableTypes.Json.Basic

/-!
# Reading JSON

Each reader takes what it can from the beginning of a text and gives the rest.
-/

namespace TableTypes.Json

/-- The text behind blanks and line breaks. -/
def skipBlanks (cs : List Char) : List Char :=
  cs.dropWhile fun c => c = ' ' || c = '\t' || c = '\n' || c = '\r'

/-- The value of a hexadecimal digit. -/
def hexValue? (c : Char) : Option Nat :=
  if c.isDigit then some (c.toNat - 48)
  else if 'a' ≤ c ∧ c ≤ 'f' then some (c.toNat - 87)
  else if 'A' ≤ c ∧ c ≤ 'F' then some (c.toNat - 55)
  else none

/-- The value of hexadecimal digits. -/
def hexNumber? (cs : List Char) : Option Nat :=
  cs.foldlM (fun n c => (hexValue? c).map (16 * n + ·)) 0

/-- The control character or sign that a letter stands for behind a backslash. -/
def escaped? : Char → Option Char
  | '"' => some '"'
  | '\\' => some '\\'
  | '/' => some '/'
  | 'b' => some '\x08'
  | 'f' => some '\x0c'
  | 'n' => some '\n'
  | 'r' => some '\r'
  | 't' => some '\t'
  | _ => none

/-- The numbers of the characters up to the closing quote, where a pair of surrogates still counts
as two, and the text behind the quote. -/
def units? : List Char → Option (List Nat × List Char)
  | [] => none
  | '"' :: rest => some ([], rest)
  | '\\' :: 'u' :: a :: b :: c :: d :: rest => do
    let unit ← hexNumber? [a, b, c, d]
    let (units, rest) ← units? rest
    return (unit :: units, rest)
  | '\\' :: c :: rest => do
    let c ← escaped? c
    let (units, rest) ← units? rest
    return (c.toNat :: units, rest)
  | c :: rest => do
    if c.toNat < 32 then none
    let (units, rest) ← units? rest
    return (c.toNat :: units, rest)

/-- The characters of some numbers, in which surrogates must come in pairs. -/
def joinPairs? : List Nat → Option (List Char)
  | [] => some []
  | high :: low :: rest =>
    if 0xd800 ≤ high ∧ high < 0xdc00 then
      if 0xdc00 ≤ low ∧ low < 0xe000 then
        (joinPairs? rest).map
          (Char.ofNat (0x10000 + 0x400 * (high - 0xd800) + (low - 0xdc00)) :: ·)
      else none
    else if 0xdc00 ≤ high ∧ high < 0xe000 then none
    else (joinPairs? (low :: rest)).map (Char.ofNat high :: ·)
  | [unit] => if 0xd800 ≤ unit ∧ unit < 0xe000 then none else some [Char.ofNat unit]

/-- A text behind its opening quote, and the rest. -/
def readText? (cs : List Char) : Option (Option String × List Char) :=
  (units? cs).map fun (units, rest) => ((joinPairs? units).map String.ofList, rest)

/-- Digits, at least one, and the rest. -/
def readDigits? (cs : List Char) : Option (List Char × List Char) :=
  match cs.span Char.isDigit with
  | ([], _) => none
  | parts => some parts

/-- The part of a number behind a point, if there is one, and the rest. -/
def readFraction? (cs : List Char) : Option (List Char × List Char) :=
  match cs with
  | '.' :: rest => (readDigits? rest).map fun (digits, rest) => ('.' :: digits, rest)
  | cs => some ([], cs)

/-- The exponent of a number, if there is one, and the rest. -/
def readExponent? (cs : List Char) : Option (List Char × List Char) :=
  match cs with
  | e :: rest =>
    if e = 'e' || e = 'E' then
      let (sign, rest) := rest.splitAt (if rest.head? = some '+' || rest.head? = some '-' then 1 else 0)
      (readDigits? rest).map fun (digits, rest) => (e :: sign ++ digits, rest)
    else some ([], cs)
  | [] => some ([], [])

/-- A number, which has no zero in front of other digits, and the rest. -/
def readNumber? (cs : List Char) : Option (String × List Char) := do
  let (sign, rest) := cs.splitAt (if cs.head? = some '-' then 1 else 0)
  let (whole, rest) ← readDigits? rest
  if whole.head? = some '0' && whole.length > 1 then none
  let (fraction, rest) ← readFraction? rest
  let (exponent, rest) ← readExponent? rest
  return (String.ofList (sign ++ whole ++ fraction ++ exponent), rest)

/-- Items with commas between them up to a closing sign; each turn takes a character at least. -/
def readItems? {α : Type} (closing : Char) (item : List Char → Option (α × List Char)) :
    Nat → List Char → Option (List α × List Char)
  | 0, _ => none
  | fuel + 1, cs => do
    let (first, rest) ← item (skipBlanks cs)
    match skipBlanks rest with
    | ',' :: rest =>
      let (items, rest) ← readItems? closing item fuel rest
      return (first :: items, rest)
    | c :: rest => if c = closing then return ([first], rest) else none
    | [] => none

/-- Items between brackets, of which the opening one has been read. -/
def readEnclosed? {α : Type} (closing : Char) (item : List Char → Option (α × List Char))
    (cs : List Char) : Option (List α × List Char) :=
  match skipBlanks cs with
  | c :: rest => if c = closing then some ([], rest) else readItems? closing item cs.length cs
  | [] => none

/-- A member of an object, and the rest. -/
def readMember? (value : List Char → Option (Json × List Char)) (cs : List Char) :
    Option ((Option String × Json) × List Char) :=
  match cs with
  | '"' :: rest => do
    let (key, rest) ← readText? rest
    match skipBlanks rest with
    | ':' :: rest =>
      let (value, rest) ← value (skipBlanks rest)
      return ((key, value), rest)
    | _ => none
  | _ => none

/-- A value nested less deep than the first number, and the rest. -/
def readValue? : Nat → List Char → Option (Json × List Char)
  | 0, _ => none
  | depth + 1, cs =>
    match cs with
    | 'n' :: 'u' :: 'l' :: 'l' :: rest => some (.null, rest)
    | 't' :: 'r' :: 'u' :: 'e' :: rest => some (.boolean true, rest)
    | 'f' :: 'a' :: 'l' :: 's' :: 'e' :: rest => some (.boolean false, rest)
    | '"' :: rest => (readText? rest).map fun (s, rest) => (.text s, rest)
    | '[' :: rest =>
      (readEnclosed? ']' (readValue? depth) rest).map fun (items, rest) => (.array items, rest)
    | '\x7b' :: rest =>
      (readEnclosed? '\x7d' (readMember? (readValue? depth)) rest).map fun (members, rest) =>
        (.object members, rest)
    | cs => (readNumber? cs).map fun (digits, rest) => (.number digits, rest)

/-- Reads a text that holds one value and nothing else. -/
def read? (s : String) : Option Json := do
  let (value, rest) ← readValue? (s.length + 1) (skipBlanks s.toList)
  if (skipBlanks rest).isEmpty then return value else none

end TableTypes.Json
