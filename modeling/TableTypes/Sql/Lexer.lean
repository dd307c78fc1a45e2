import TableTypes.Sql.Token
import TableTypes.Unicode.Alphanumeric
import TableTypes.Unicode.Blank
import TableTypes.Unicode.LetterCase

/-!
# Cutting SQL into tokens

Each reading function looks at the beginning of a list of characters and tells the token that stands
there and how many characters it takes.
-/

namespace TableTypes

namespace Dialect

/-- Whether a character can begin a word. -/
def startsWord (d : Dialect) (c : Char) : Bool :=
  match d with
  | postgres => Unicode.isAlphabetic c || c = '_' || 128 ≤ c.toNat
  | mysql => Unicode.isAlphabetic c || c = '_' || c = '$' || c = '@' || 128 ≤ c.toNat
  | sqlite => c.isAlpha || c = '_' || (127 ≤ c.toNat && c.toNat ≤ 0xffff)

/-- Whether a character can stand in a word behind the first one. -/
def continuesWord (d : Dialect) (c : Char) : Bool :=
  match d with
  | postgres => startsWord d c || c.isDigit || c = '$'
  | _ => startsWord d c || c.isDigit

/-- Whether a character opens a quoted name. -/
def opensName (d : Dialect) (c : Char) : Bool :=
  match d with
  | postgres => c = '"'
  | mysql => c = '\x60'
  | sqlite => c = '\x60' || c = '"' || c = '['

/-- Whether a backslash in a string constant changes the character behind it. -/
def hasBackslashes (d : Dialect) : Bool :=
  d = mysql

end Dialect

namespace Sql

/-- What stands at the beginning of a text: a token, or none for a blank or a comment, and the
number of characters it takes, which is at least one. -/
structure Lexeme where
  token : Option Token
  length : Nat

/-- Why no token stands at the beginning of a text, and how many characters before the place to
name. -/
structure LexicalError where
  message : String
  offset : Nat

/-- The character that a letter behind a backslash stands for. -/
def backslashed (c : Char) : Char :=
  match c with
  | '0' => '\x00'
  | 'a' => '\x07'
  | 'b' => '\x08'
  | 'f' => '\x0c'
  | 'n' => '\n'
  | 'r' => '\r'
  | 't' => '\t'
  | 'Z' => '\x1a'
  | c => c

/-- The value of a string constant behind its opening quote, and the number of characters up to the
closing quote and with it. A quote written twice is part of the value. With `backslash`, what stands
behind a backslash is changed, but a wildcard keeps its backslash. -/
def stringBody (quote : Char) (backslash : Bool) : List Char → Option (List Char × Nat)
  | [] => none
  | [c] => if c = quote then some ([], 1) else none
  | c :: next :: rest =>
    if c = quote then
      if next = quote then
        (stringBody quote backslash rest).map fun (value, n) => (quote :: value, n + 2)
      else some ([], 1)
    else if backslash && c = '\\' then
      let value := if next = '%' || next = '_' then [c, next] else [backslashed next]
      (stringBody quote backslash rest).map fun (more, n) => (value ++ more, n + 2)
    else (stringBody quote backslash (next :: rest)).map fun (value, n) => (c :: value, n + 1)

/-- The value of a number written in digits of a base. -/
def digitsValue (base : Nat) (digits : List Char) : Nat :=
  digits.foldl (fun value c =>
    let n := c.toNat
    let digit := if c.isDigit then n - 48 else if 97 ≤ n then n - 87 else n - 55
    value * base + digit) 0

/-- Whether a character is a hexadecimal digit. -/
def isHexDigit (c : Char) : Bool :=
  c.isDigit || ('a' ≤ c && c ≤ 'f') || ('A' ≤ c && c ≤ 'F')

/-- The character of a number, which must be one other than zero. -/
def character? (n : Nat) : Option Char :=
  if n = 0 then none else if n.isValidChar then some (Char.ofNat n) else none

/-- What a backslash escape stands for: its characters behind the backslash, the value and the
length. A byte must be an ASCII character. -/
def escape? (cs : List Char) : Option (Char × Nat) :=
  let byte (base : Nat) (digits : List Char) (n : Nat) : Option (Char × Nat) :=
    let code := digitsValue base digits % 256
    if code ≤ 127 then (character? code).map fun c => (c, n) else none
  let wide (count : Nat) (rest : List Char) : Option (Char × Nat) :=
    let digits := rest.take count
    if digits.length = count && digits.all isHexDigit then
      (character? (digitsValue 16 digits)).map fun c => (c, count + 1)
    else none
  match cs with
  | [] => none
  | 'b' :: _ => some ('\x08', 1)
  | 'f' :: _ => some ('\x0c', 1)
  | 'n' :: _ => some ('\n', 1)
  | 'r' :: _ => some ('\r', 1)
  | 't' :: _ => some ('\t', 1)
  | 'u' :: rest => wide 4 rest
  | 'U' :: rest => wide 8 rest
  | 'x' :: rest =>
    let digits := (rest.take 2).takeWhile isHexDigit
    if digits.isEmpty then some ('x', 1) else byte 16 digits (digits.length + 1)
  | c :: rest =>
    let isOctal (c : Char) : Bool := '0' ≤ c && c ≤ '7'
    if isOctal c then
      let digits := c :: (rest.take 2).takeWhile isOctal
      byte 8 digits digits.length
    else if c = '\x00' then none else some (c, 1)

/-- The value of a string constant with escapes behind its opening quote, and its length as in
`stringBody`; the fuel is the number of characters. -/
def escapedBody : Nat → List Char → Option (List Char × Nat)
  | 0, _ => none
  | _ + 1, [] => none
  | fuel + 1, c :: rest =>
    if c = '\'' then
      match rest with
      | '\'' :: rest => (escapedBody fuel rest).map fun (value, n) => ('\'' :: value, n + 2)
      | _ => some ([], 1)
    else if c = '\\' then
      match escape? rest with
      | none => none
      | some (e, n) =>
        (escapedBody fuel (rest.drop n)).map fun (value, m) => (e :: value, n + m + 1)
    else (escapedBody fuel rest).map fun (value, n) => (c :: value, n + 1)

/-- The character that hexadecimal digits stand for, or what is wrong with them and how many of them
come before that. -/
def unicodeEscape (count : Nat) (cs : List Char) : Except LexicalError Char :=
  let digits := cs.take count
  let good := digits.takeWhile isHexDigit
  match digits.drop good.length with
  | bad :: _ =>
    .error ⟨"Invalid hex digit in escaped unicode string: " ++ bad.toString, good.length + 1⟩
  | [] =>
    if digits.length < count then
      .error ⟨"Unexpected EOF while parsing hex digit in escaped unicode string.", digits.length⟩
    else
      let code := digitsValue 16 digits
      if code.isValidChar then .ok (Char.ofNat code)
      else .error ⟨"Invalid unicode character: " ++ String.ofList (Nat.toDigits 16 code), count⟩

/-- The value of a string constant with Unicode escapes behind its opening quote, of which `offset`
tells the place; the fuel is the number of characters. -/
def unicodeBody : Nat → Nat → List Char → Except LexicalError (List Char × Nat)
  | 0, offset, _ => .error ⟨"Unterminated unicode encoded string literal", offset⟩
  | _ + 1, offset, [] => .error ⟨"Unterminated unicode encoded string literal", offset⟩
  | fuel + 1, offset, c :: rest =>
    let go (value : Char) (n : Nat) : Except LexicalError (List Char × Nat) :=
      (unicodeBody fuel (offset + n) ((c :: rest).drop n)).map fun (more, end_) =>
        (value :: more, end_)
    let hex (before count : Nat) : Except LexicalError (List Char × Nat) :=
      match unicodeEscape count ((c :: rest).drop before) with
      | .error e => .error ⟨e.message, offset + before + e.offset⟩
      | .ok value => go value (before + count)
    if c = '\'' then
      match rest with
      | '\'' :: _ => go '\'' 2
      | _ => .ok ([], offset + 1)
    else if c = '\\' then
      match rest with
      | '\\' :: _ => go '\\' 2
      | '+' :: _ => hex 2 6
      | _ => hex 1 4
    else go c 1

/-- The name behind its opening quote, and the number of characters up to the closing quote and with
it. -/
def nameBody (close : Char) : List Char → Option (List Char × Nat)
  | [] => none
  | [c] => if c = close then some ([], 1) else none
  | c :: next :: rest =>
    if c = close then
      if next = close then (nameBody close rest).map fun (name, n) => (close :: name, n + 2)
      else some ([], 1)
    else (nameBody close (next :: rest)).map fun (name, n) => (c :: name, n + 1)

/-- The length of a comment behind its opening marks, or none if it is not closed. With `nested`,
comments stand inside comments, `depth` of which are open. -/
def commentLength (nested : Bool) : Nat → List Char → Option Nat
  | _, [] => none
  | _, [_] => none
  | depth, c :: next :: rest =>
    if c = '*' && next = '/' then
      match depth with
      | 0 => some 2
      | depth + 1 => (commentLength nested depth rest).map (· + 2)
    else if nested && c = '/' && next = '*' then
      (commentLength nested (depth + 1) rest).map (· + 2)
    else (commentLength nested depth (next :: rest)).map (· + 1)

/-- The text between two dollar signs and the next two, and its length with the latter. Of dollar
signs alone only those are kept that another character follows. -/
def dollarBody (afterDollar : Bool) : List Char → Option (List Char × Nat)
  | [] => none
  | c :: rest =>
    if afterDollar && c = '$' then some ([], 1)
    else
      let kept := if afterDollar then ['$', c] else if c = '$' then [] else [c]
      (dollarBody (c = '$') rest).map fun (value, n) => (kept ++ value, n + 1)

/-- The text before the first occurrence of a delimiter. -/
def before? (delimiter : List Char) : List Char → Option (List Char)
  | [] => if delimiter.isEmpty then some [] else none
  | c :: rest =>
    if delimiter.isPrefixOf (c :: rest) then some [] else (before? delimiter rest).map (c :: ·)

/-- Digits, in which Postgres allows an underscore before each further digit. -/
def digitRun (d : Dialect) : List Char → List Char
  | [] => []
  | [c] => if c.isDigit then [c] else []
  | c :: next :: rest =>
    if c.isDigit || (d = .postgres && c = '_' && isHexDigit next) then
      c :: digitRun d (next :: rest)
    else []

/-- A decimal exponent. -/
def exponent (cs : List Char) : List Char :=
  match cs with
  | e :: rest =>
    if e = 'e' || e = 'E' then
      let (sign, rest) :=
        match rest with
        | s :: more => if s = '+' || s = '-' then ([s], more) else ([], rest)
        | [] => ([], rest)
      let digits := rest.takeWhile Char.isDigit
      if digits.isEmpty then [] else e :: sign ++ digits
    else []
  | [] => []

/-- A token that takes as many characters as its written form. -/
def plain (t : String) : Lexeme := ⟨some (.sign t), t.length⟩

/-- The word that continues some characters. -/
def wordFrom (d : Dialect) (first rest : List Char) : Lexeme :=
  let text := first ++ rest.takeWhile d.continuesWord
  ⟨some (.word (String.ofList text) none), text.length⟩

/-- A number, a period, or in MySQL a word that begins with digits. `previous` is the token just
before. -/
def number (d : Dialect) (previous : Option Token) (cs : List Char) : Except LexicalError Lexeme :=
  let afterWord := (previous.map Token.isWord).getD false
  match cs with
  | '.' :: '_' :: _ =>
    if afterWord then .ok (plain ".") else .error ⟨"Unexpected character '_'", 0⟩
  | _ =>
    let whole := digitRun d cs
    let rest := cs.drop whole.length
    match whole, rest with
    | ['0'], 'x' :: rest =>
      let digits := rest.takeWhile fun c => isHexDigit c
      .ok ⟨some (.constant .hex (String.ofList digits)), digits.length + 2⟩
    | _, _ =>
      let (point, rest) :=
        match rest with
        | '.' :: rest => (['.'], rest)
        | _ => ([], rest)
      if whole.isEmpty && d = .mysql && afterWord then .ok (plain ".")
      else
        let fraction := digitRun d rest
        let rest := rest.drop fraction.length
        let digits := whole ++ point ++ fraction
        if digits = ['.'] then .ok (plain ".")
        else
          let power := exponent rest
          let rest := rest.drop power.length
          let text := digits ++ power
          let word := if power.isEmpty then rest.takeWhile d.continuesWord else []
          if d = .mysql && !word.isEmpty then .ok (wordFrom d text rest)
          else if d = .mysql && !power.isEmpty && previous = some (.sign ".") then
            .ok ⟨some (.word (String.ofList text) none), text.length⟩
          else
            let isLong := rest.head? = some 'L'
            .ok ⟨some (.number (String.ofList text) isLong),
              text.length + if isLong then 1 else 0⟩

/-- The placeholder behind a dollar sign. -/
def dollarPlaceholder (d : Dialect) (rest : List Char) : Lexeme :=
  let name := rest.takeWhile fun c =>
    Unicode.isAlphanumeric c || c = '_' || (d = .sqlite && c = '$')
  ⟨some (.placeholder (String.ofList ('$' :: name))), name.length + 1⟩

/-- What a dollar sign begins: a string constant, or a placeholder. -/
def dollar (d : Dialect) (rest : List Char) : Except LexicalError Lexeme :=
  if d = .sqlite then .ok (dollarPlaceholder d rest)
  else
    match rest with
    | '$' :: body =>
      match dollarBody false body with
      | some (value, n) => .ok ⟨some (.constant (.dollar "") (String.ofList value)), n + 2⟩
      | none => .error ⟨"Unterminated dollar-quoted string", rest.length + 1⟩
    | _ =>
      let tag := rest.takeWhile fun c => Unicode.isAlphanumeric c || c = '_'
      match rest.drop tag.length with
      | '$' :: body =>
        let delimiter := '$' :: tag ++ ['$']
        match before? delimiter body with
        | some value =>
          .ok ⟨some (.constant (.dollar (String.ofList tag)) (String.ofList value)),
            value.length + 2 * delimiter.length⟩
        | none => .error ⟨"Unterminated dollar-quoted, expected $", rest.length + 1⟩
      | _ => .ok (dollarPlaceholder d rest)

/-- The signs of more than one character, a longer one before its beginnings. -/
def signs : List (List Char) :=
  ["->>", "->", "||/", "||", "|/", "=>", "==", "!=", "!!", "!~~*", "!~~", "!~*", "!~", "<=>", "<=",
   "<>", "<<", "<@", ">=", ">>", "::", ":=", "&&", "^@", "~~*", "~~", "~*", "#-", "#>>", "#>", "@>",
   "@?", "@@"].map String.toList

/-- The characters that make up the operators of Postgres. -/
def isOperatorPart (c : Char) : Bool :=
  "+-*/<>=~!@#%^&|\x60?".toList.contains c

/-- The sign at the beginning of a text. In Postgres most operators go on as long as they can. -/
def sign (d : Dialect) (c : Char) (cs : List Char) : Lexeme :=
  if d = .postgres && "-%|<>&~#@".toList.contains c then
    let text := cs.takeWhile isOperatorPart
    ⟨some (.sign (String.ofList text)), text.length⟩
  else if d = .postgres && c = '?' then
    let known := ["?||", "?|", "?&", "?-|", "?-", "?#"].find? fun s => s.toList.isPrefixOf cs
    plain (known.getD "?")
  else
    match signs.find? fun s => s.isPrefixOf cs with
    | some s => plain (String.ofList s)
    | none => plain c.toString

/-- A string constant behind `skipped` characters, the last of which is its quote. -/
def stringConstant (mark : StringMark) (quote : Char) (backslash : Bool) (skipped : Nat)
    (body : List Char) : Except LexicalError Lexeme :=
  match stringBody quote backslash body with
  | some (value, n) => .ok ⟨some (.constant mark (String.ofList value)), skipped + n⟩
  | none => .error ⟨"Unterminated string literal", skipped - 1⟩

/-- The length of a comment that goes on to the end of the line, with the line ending. -/
def lineComment (d : Dialect) (cs : List Char) : Lexeme :=
  let body := cs.takeWhile fun c => c ≠ '\n' && !(d = .postgres && c = '\r')
  ⟨none, min cs.length (body.length + 1)⟩

/-- Whether two hyphens begin a comment, given what follows them. -/
def isDashComment (d : Dialect) (rest : List Char) : Bool :=
  d ≠ .mysql || rest.head? = some ' '

/-- Reads what stands at the beginning of a text. `previous` is the token just before, if no blank
stands between. -/
def lexeme (d : Dialect) (previous : Option Token) : List Char → Except LexicalError Lexeme
  | [] => .ok ⟨none, 0⟩
  | '\r' :: '\n' :: _ => .ok ⟨none, 2⟩
  | '-' :: '-' :: rest =>
    if isDashComment d rest then .ok (lineComment d ('-' :: '-' :: rest))
    else .ok (sign d '-' ('-' :: '-' :: rest))
  | '/' :: '*' :: rest =>
    match commentLength (d = .postgres) 0 rest with
    | some n => .ok ⟨none, n + 2⟩
    | none => .error ⟨"Unexpected EOF while in a multi-line comment", rest.length + 2⟩
  | 'U' :: '&' :: '\'' :: rest => unicodeConstant 'U' rest
  | 'u' :: '&' :: '\'' :: rest => unicodeConstant 'u' rest
  | c :: '\'' :: rest =>
    if (c = 'b' || c = 'B') && d ≠ .sqlite then stringConstant .bits '\'' false 2 rest
    else if c = 'n' || c = 'N' then stringConstant .national '\'' d.hasBackslashes 2 rest
    else if c = 'x' || c = 'X' then stringConstant .hex '\'' true 2 rest
    else if (c = 'e' || c = 'E') && d = .postgres then
      match escapedBody (rest.length + 1) rest with
      | some (value, n) => .ok ⟨some (.constant .escaped (String.ofList value)), n + 2⟩
      | none => .error ⟨"Unterminated encoded string literal", 0⟩
    else single c ('\'' :: rest)
  | c :: '"' :: rest =>
    if (c = 'b' || c = 'B') && d ≠ .sqlite then stringConstant .doubleBits '"' false 2 rest
    else single c ('"' :: rest)
  | c :: rest => single c rest
where
  unicodeConstant (c : Char) (rest : List Char) : Except LexicalError Lexeme :=
    if d = .postgres then
      match unicodeBody (rest.length + 1) 3 rest with
      | .ok (value, n) => .ok ⟨some (.constant .unicode (String.ofList value)), n⟩
      | .error e => .error e
    else single c ('&' :: '\'' :: rest)
  single (c : Char) (rest : List Char) : Except LexicalError Lexeme :=
    if c = ' ' || c = '\t' || c = '\n' || c = '\r' then .ok ⟨none, 1⟩
    else if c = '\'' then stringConstant .single c d.hasBackslashes 1 rest
    else if c = '"' && d = .mysql then stringConstant .double c true 1 rest
    else if d.opensName c then
      let close := closingQuote c
      match nameBody close rest with
      | some (name, n) => .ok ⟨some (.word (String.ofList name) (some c)), n + 1⟩
      | none =>
        .error ⟨"Expected close delimiter '" ++ close.toString ++ "' before EOF.", 0⟩
    else if c.isDigit || c = '.' then number d previous (c :: rest)
    else if c = '#' && d = .mysql then .ok (lineComment d (c :: rest))
    else if c = '@' && d = .mysql then
      match rest with
      | [] => .ok (plain "@")
      | next :: more =>
        if ['>', '?', '@', ' ', '\'', '"', '\x60'].contains next then .ok (sign d c (c :: rest))
        else .ok (wordFrom d [c, next] more)
    else if c = '?' && d ≠ .postgres then
      let digits := rest.takeWhile Unicode.isNumeric
      .ok ⟨some (.placeholder (String.ofList (c :: digits))), digits.length + 1⟩
    else if d.startsWord c then .ok (wordFrom d [c] rest)
    else if c = '$' then dollar d rest
    else if Unicode.isBlank c then .ok ⟨none, 1⟩
    else .ok (sign d c (c :: rest))

/-- Cuts a text into tokens from a place on; the fuel is the number of characters left. -/
def tokensFrom (d : Dialect) :
    Nat → Option Token → Position → List Char → Except SyntaxError (List PlacedToken)
  | 0, _, _, _ => .ok []
  | _ + 1, _, _, [] => .ok []
  | fuel + 1, previous, position, cs =>
    match lexeme d previous cs with
    | .error e => .error (.lexical e.message ((cs.take e.offset).foldl Position.step position))
    | .ok ⟨token, n⟩ =>
      let next := (cs.take n).foldl Position.step position
      match tokensFrom d fuel token next (cs.drop n) with
      | .error e => .error e
      | .ok tokens =>
        match token with
        | some token => .ok (⟨token, position, token.keyword?⟩ :: tokens)
        | none => .ok tokens

/-- The tokens of a text, without blanks and comments. -/
def tokens (d : Dialect) (text : String) : Except SyntaxError (List PlacedToken) :=
  let cs := text.toList
  tokensFrom d cs.length none .start cs

end Sql

end TableTypes
