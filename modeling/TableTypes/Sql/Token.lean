import TableTypes.Dialect.Basic

/-!
# Tokens of SQL

The tokens that a text of SQL is cut into, their written form, and the places they stand at.
-/

namespace TableTypes.Sql

/-- How a string constant is marked. -/
inductive StringMark where
  | single
  | double
  | national
  | escaped
  | unicode
  | hex
  | bits
  | doubleBits
  | dollar (tag : String)
  deriving DecidableEq, Repr, Inhabited

/-- A string constant between its marks. -/
def StringMark.enclose : StringMark → String → String
  | .single, s => "'" ++ s ++ "'"
  | .double, s => "\"" ++ s ++ "\""
  | .national, s => "N'" ++ s ++ "'"
  | .escaped, s => "E'" ++ s ++ "'"
  | .unicode, s => "U&'" ++ s ++ "'"
  | .hex, s => "X'" ++ s ++ "'"
  | .bits, s => "B'" ++ s ++ "'"
  | .doubleBits, s => "B\"" ++ s ++ "\""
  | .dollar tag, s => "$" ++ tag ++ "$" ++ s ++ "$" ++ tag ++ "$"

/-- The character that closes a quoted name. -/
def closingQuote (opening : Char) : Char :=
  if opening = '[' then ']' else opening

/-- A token. A word has the character that opens its quotes, if it is quoted. -/
inductive Token where
  | word (text : String) (quote : Option Char)
  | number (digits : String) (isLong : Bool)
  | constant (mark : StringMark) (value : String)
  | placeholder (name : String)
  | sign (text : String)
  deriving DecidableEq, Repr, Inhabited

namespace Token

/-- The text of a token, with the quotes inside quotes written once. -/
def text : Token → String
  | word s none => s
  | word s (some q) => q.toString ++ s ++ (closingQuote q).toString
  | number digits isLong => if isLong then digits ++ "L" else digits
  | constant mark value => mark.enclose value
  | placeholder name => name
  | sign s => s

/-- A word without quotes in capital letters, in which it is compared with keywords. -/
def keyword? : Token → Option String
  | word s none => some (Unicode.uppercase s)
  | _ => none

/-- Whether a token is a word. -/
def isWord : Token → Bool
  | word _ _ => true
  | _ => false

end Token

/-- A place in a text; lines and columns count from one. -/
structure Position where
  line : Nat
  column : Nat
  deriving DecidableEq, Repr, Inhabited

namespace Position

/-- The beginning of a text. -/
def start : Position := ⟨1, 1⟩

/-- The place behind a character. -/
def step (p : Position) (c : Char) : Position :=
  if c = '\n' then ⟨p.line + 1, 1⟩ else ⟨p.line, p.column + 1⟩

/-- The text that names a place. -/
def text (p : Position) : String :=
  " at Line: " ++ toString p.line ++ ", Column: " ++ toString p.column

end Position

/-- A token, where it begins, and its keyword. -/
structure PlacedToken where
  token : Token
  position : Position
  keyword : Option String := token.keyword?
  deriving DecidableEq, Repr, Inhabited

/-- Why a text is no SQL. -/
inductive SyntaxError where
  /-- The characters from a place on are no token. -/
  | lexical (message : String) (position : Position)
  /-- Something else was expected than the token found, or than the end. -/
  | expected (what : String) (found : Option PlacedToken)
  /-- A number does not fit into a type or has characters other than digits. -/
  | badNumber (digits type reason : String) (position : Position)
  /-- Something is read whole but makes no sense. -/
  | malformed (message : String) (position : Option Position)
  /-- The text is nested too deeply. -/
  | tooDeep
  deriving DecidableEq, Repr, Inhabited

/-- The text of an error. -/
def SyntaxError.message : SyntaxError → String
  | lexical message position => message ++ position.text
  | expected what (some found) =>
    "Expected: " ++ what ++ ", found: " ++ found.token.text ++ found.position.text
  | expected what none => "Expected: " ++ what ++ ", found: EOF"
  | badNumber digits type reason position =>
    "Could not parse '" ++ digits ++ "' as " ++ type ++ ": " ++ reason ++ position.text
  | malformed message position => message ++ (position.map Position.text).getD ""
  | tooDeep => "recursion limit exceeded"

end TableTypes.Sql
