import TableTypes.Sql.Parser.Basic

/-!
# Binding strength of operators

How strongly the operator that stands next binds, in each dialect. A word or sign that is no operator
there has the strength zero.
-/

namespace TableTypes.Sql

/-- Where an expression stands. In the option of a column `NOT NULL` and `COLLATE` behind an
expression are options of their own. -/
inductive Mode where
  | ordinary
  | columnOption
  deriving DecidableEq

/-- A class of operators of the same strength. -/
inductive Strength where
  | period
  | cast
  | collate
  | timeZone
  | product
  | sum
  | xor
  | ampersand
  | caret
  | pipe
  | colon
  | between
  | equal
  | like
  | is
  | other
  | not
  | and
  | or

/-- The strength of a class as a number; a stronger operator has a greater one. -/
def Strength.value (d : Dialect) : Strength → Nat
  | .period => if d = .postgres then 200 else 100
  | .cast => if d = .postgres then 140 else 50
  | .collate => if d = .postgres then 120 else 42
  | .timeZone => if d = .postgres then 110 else 41
  | .product => if d = .postgres then 90 else 40
  | .sum => if d = .postgres then 80 else 30
  | .xor => if d = .postgres then 75 else 24
  | .ampersand => if d = .postgres then 70 else 23
  | .caret => if d = .postgres then 100 else 22
  | .pipe => if d = .postgres then 70 else 21
  | .colon => if d = .postgres then 0 else 21
  | .between => if d = .postgres then 60 else 20
  | .equal => if d = .postgres then 50 else 20
  | .like => if d = .postgres then 60 else 19
  | .is => if d = .postgres then 40 else 17
  | .other => if d = .postgres then 70 else 16
  | .not => if d = .postgres then 30 else 15
  | .and => if d = .postgres then 20 else 10
  | .or => if d = .postgres then 10 else 5

/-- The class of an operator written with signs. -/
def signStrength? (d : Dialect) (s : String) : Option Strength :=
  if d = .postgres && ["||", "#", ">>", "<<", "&&", "^@", "!"].contains s then some .other
  else if ["=", "<", "<=", "<>", "!=", ">", ">=", "==", ":=", "~", "~*", "!~", "!~*", "~~", "~~*",
      "!~~", "!~~*", "<=>"].contains s then some .equal
  else if ["|", "&&"].contains s then some .pipe
  else if ["^", "#", ">>", "<<"].contains s then some .caret
  else if s = "&" then some .ampersand
  else if ["+", "-"].contains s then some .sum
  else if ["*", "/", "%", "||"].contains s then some .product
  else if ["::", "!", "^@"].contains s then some .cast
  else if ["->", "->>", "#>", "#>>", "@>", "<@", "#-", "@?", "@@", "?", "?&", "?|"].contains s then
    some .other
  else if s = "." then some .period
  else if s = ":" then some .colon
  else if d = .postgres && s.toList.all "+-*/<>=~!@#%^&|\x60?".toList.contains then some .other
  else none

/-- The class of an operator that is a keyword, given the two keywords behind it. -/
def keywordStrength? (m : Mode) (word next afterNext : String) : Option Strength :=
  let ofWord (word : String) : Option Strength :=
    if ["IN", "BETWEEN", "OVERLAPS", "OPERATOR"].contains word then some .between
    else if ["LIKE", "ILIKE", "RLIKE", "REGEXP", "MATCH", "SIMILAR", "MEMBER"].contains word then
      some .like
    else none
  match word with
  | "OR" => some .or
  | "AND" => some .and
  | "XOR" => some .xor
  | "IS" => some .is
  | "DIV" => some .product
  | "AT" => if next = "TIME" && afterNext = "ZONE" then some .timeZone else none
  | "COLLATE" => if m = .ordinary then some .collate else none
  | "NOT" =>
    if next = "NULL" then if m = .ordinary then some .is else none
    else if next = "OVERLAPS" || next = "OPERATOR" then none
    else ofWord next
  | _ => ofWord word

/-- The strength of the operator at the front of some tokens. -/
def nextStrength (d : Dialect) (m : Mode) (ts : List PlacedToken) : Nat :=
  let keyword (n : Nat) : String := ((ts[n]?).bind PlacedToken.keyword).getD ""
  let strength : Option Strength :=
    match ts with
    | ⟨.sign s, _, _⟩ :: _ => signStrength? d s
    | ⟨.word _ _, _, some word⟩ :: _ =>
      if word = "NOTNULL" && d ≠ .mysql then some .is
      else keywordStrength? m word (keyword 1) (keyword 2)
    | _ => none
  (strength.map fun s => s.value d).getD 0

end TableTypes.Sql
