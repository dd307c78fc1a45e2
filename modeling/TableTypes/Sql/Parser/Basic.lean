import TableTypes.Sql.Keyword
import TableTypes.Sql.Syntax

/-!
# Reading tokens

Readers take something from the front of a list of tokens, or say what they expected there.
-/

namespace TableTypes.Sql

/-- A reader of something at the front of a list of tokens. -/
abbrev Parser := StateT (List PlacedToken) (Except SyntaxError)

namespace Parser

variable {α : Type}

/-- Fails where the tokens stand. -/
def expected (what : String) : Parser α :=
  fun ts => .error (.expected what ts.head?)

/-- Fails with an error. -/
def fail (e : SyntaxError) : Parser α :=
  fun _ => .error e

/-- Fails with a text and the place where the tokens stand. -/
def refuse (message : String) : Parser α :=
  fun ts => .error (.malformed message (ts.head?.map PlacedToken.position))

/-- The next token, which is not taken. -/
def peek : Parser (Option PlacedToken) :=
  fun ts => .ok (ts.head?, ts)

/-- Takes the next token, whatever it is. -/
def skip : Parser Unit :=
  fun ts => .ok ((), ts.drop 1)

/-- The keyword at a place further on. -/
def peekKeyword (ahead : Nat) : Parser String :=
  fun ts => .ok (((ts[ahead]?).bind PlacedToken.keyword).getD "", ts)

/-- Whether the token at a place further on is a sign. -/
def peekSign (ahead : Nat) (s : String) : Parser Bool :=
  fun ts => .ok ((ts[ahead]?).map PlacedToken.token = some (.sign s), ts)

/-- Takes keywords, all of them or none; tells whether they stood there. -/
def keywords (words : List String) : Parser Bool :=
  fun ts =>
    if (ts.take words.length).map PlacedToken.keyword = words.map some then
      .ok (true, ts.drop words.length)
    else .ok (false, ts)

/-- Takes a keyword if it stands there. -/
def keyword (word : String) : Parser Bool :=
  fun ts =>
    match ts with
    | t :: rest => if t.keyword = some word then .ok (true, rest) else .ok (false, ts)
    | [] => .ok (false, [])

/-- Takes something only if a condition holds. -/
def onlyIf (condition : Bool) (p : Parser Bool) : Parser Bool :=
  if condition then p else return false

/-- Takes one of several keywords. -/
def oneOf (words : List String) : Parser (Option String) :=
  fun ts =>
    match ts with
    | t :: rest =>
      match t.keyword with
      | some word => if words.contains word then .ok (some word, rest) else .ok (none, ts)
      | none => .ok (none, ts)
    | [] => .ok (none, [])

/-- Takes a sign if it stands there. -/
def sign (s : String) : Parser Bool :=
  fun ts =>
    match ts with
    | t :: rest => if t.token = .sign s then .ok (true, rest) else .ok (false, ts)
    | [] => .ok (false, [])

/-- Takes a sign that must stand there. -/
def expectSign (s : String) : Parser Unit := do
  if ← sign s then return () else expected s

/-- Takes a keyword that must stand there. -/
def expectKeyword (word : String) : Parser Unit := do
  if ← keyword word then return () else expected word

/-- Takes one of several keywords, which must stand there. -/
def expectOneOf (words : List String) : Parser String := do
  match ← oneOf words with
  | some word => return word
  | none => expected ("one of " ++ " or ".intercalate words)

/-- Reads something if it can be read. Too deep a nesting is no reason to go another way. -/
def attempt (p : Parser α) : Parser (Option α) :=
  fun ts =>
    match p ts with
    | .ok (a, rest) => .ok (some a, rest)
    | .error .tooDeep => .error .tooDeep
    | .error _ => .ok (none, ts)

/-- Reads items with commas between them; the fuel is the number of tokens. -/
def commaLoop (p : Parser α) : Nat → Parser (List α)
  | 0 => do return [← p]
  | fuel + 1 => do
    let a ← p
    if ← sign "," then return a :: (← commaLoop p fuel) else return [a]

/-- Reads items with commas between them, one at least. -/
def commaSeparated (p : Parser α) : Parser (List α) :=
  fun ts => commaLoop p ts.length ts

/-- Reads items with commas between them, none if the closing sign stands there. -/
def commaSeparatedUntil (close : String) (p : Parser α) : Parser (List α) := do
  if ← peekSign 0 close then return [] else commaSeparated p

/-- Reads items as long as there are more; the fuel is the number of tokens. -/
def manyLoop (p : Parser (Option α)) : Nat → Parser (List α)
  | 0 => return []
  | fuel + 1 => do
    match ← p with
    | some a => return a :: (← manyLoop p fuel)
    | none => return []

/-- Reads items as long as there are more, each of one token at least. -/
def many (p : Parser (Option α)) : Parser (List α) :=
  fun ts => manyLoop p (ts.length + 1) ts

/-- Reads something in parentheses. -/
def parenthesized (p : Parser α) : Parser α := do
  expectSign "("
  let a ← p
  expectSign ")"
  return a

/-- Reads a name. A string constant in plain quotes serves as one. -/
def name : Parser Name :=
  fun ts =>
    match ts with
    | ⟨.word text quote, _, _⟩ :: rest => .ok (⟨text, quote⟩, rest)
    | ⟨.constant .single value, _, _⟩ :: rest => .ok (⟨value, some '\''⟩, rest)
    | ⟨.constant .double value, _, _⟩ :: rest => .ok (⟨value, some '"'⟩, rest)
    | _ => .error (.expected "identifier" ts.head?)

/-- Reads a qualified name. -/
def path : Parser Path := do
  let first ← name
  let rest ← many do
    if ← sign "." then return some (← name) else return none
  return first :: rest

/-- Reads names in parentheses. -/
def nameList : Parser (List Name) := do
  if ← sign "(" then
    let names ← commaSeparated name
    expectSign ")"
    return names
  else expected "a list of columns in parentheses"

/-- Reads names in parentheses if there are any. -/
def optionalNameList : Parser (List Name) := do
  if ← peekSign 0 "(" then nameList else return []

/-- Reads a text: a string constant, or a word that is no keyword. -/
def text (d : Dialect) : Parser String :=
  fun ts =>
    match ts with
    | ⟨.word s quote, _, keyword⟩ :: rest =>
      let plain := quote.isSome || !((keyword.map isKeyword).getD false)
      if plain then .ok (s, rest) else .error (.expected "literal string" ts.head?)
    | ⟨.constant .single s, _, _⟩ :: rest => .ok (s, rest)
    | ⟨.constant .double s, _, _⟩ :: rest => .ok (s, rest)
    | ⟨.constant .unicode s, _, _⟩ :: rest => .ok (s, rest)
    | ⟨.constant .escaped s, _, _⟩ :: rest =>
      if d = .postgres then .ok (s, rest) else .error (.expected "literal string" ts.head?)
    | _ => .error (.expected "literal string" ts.head?)

/-- The number that digits stand for, below a limit of a type. -/
def boundedNumber (type : String) (limit : Nat) (t : PlacedToken) (digits : String) :
    Except SyntaxError Nat :=
  if !digits.toList.all Char.isDigit then
    .error (.badNumber digits type "invalid digit found in string" t.position)
  else
    let n := digits.toList.foldl (fun n c => n * 10 + (c.toNat - 48)) 0
    if n < limit then .ok n
    else .error (.badNumber digits type "number too large to fit in target type" t.position)

/-- Reads a whole number without sign. -/
def natural : Parser Nat :=
  fun ts =>
    match ts with
    | t :: rest =>
      match t.token with
      | .number digits _ => (boundedNumber "u64" UInt64.size t digits).map fun n => (n, rest)
      | _ => .error (.expected "literal int" ts.head?)
    | [] => .error (.expected "literal int" none)

/-- Reads a whole number with or without a sign, as text. -/
def integer : Parser String := do
  let negative ← sign "-"
  if !negative then
    let _ ← sign "+"
  fun ts =>
    match ts with
    | t :: rest =>
      match t.token with
      | .number digits _ =>
        (boundedNumber "i64" 0x8000000000000000 t digits).map fun n =>
          ((if negative && n ≠ 0 then "-" else "") ++ toString n, rest)
      | _ => .error (.expected "number" ts.head?)
    | [] => .error (.expected "number" none)

end Parser

end TableTypes.Sql
