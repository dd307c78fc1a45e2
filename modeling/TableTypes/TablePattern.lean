import TableTypes.Glob.Match
import TableTypes.Glob.Parser
import TableTypes.Text.Lines
import TableTypes.Unicode.Blank

/-!
# Table patterns

A table pattern is a glob for the names of tables. `(a|b)` stands for a choice, an exclamation mark
at the beginning turns the pattern around, and a pattern with a dot is compared with the name after
its schema.
-/

namespace TableTypes

/-- A pattern for the names of tables. -/
structure TablePattern where
  glob : List Glob.Token
  negated : Bool
  /-- Whether the schema belongs to the text compared. -/
  qualified : Bool

namespace TablePattern

/-- A choice in parentheses after its opening one: what stands up to the closing parenthesis, if a
bar but no other parenthesis stands there, and the rest. -/
def alternation? (cs : List Char) : Option (List Char × List Char) :=
  let body := cs.takeWhile fun c => c ≠ '(' && c ≠ ')'
  match cs.dropWhile fun c => c ≠ '(' && c ≠ ')' with
  | ')' :: rest => if body.contains '|' then some (body, rest) else none
  | _ => none

/-- Choices in parentheses as choices in braces; each turn takes a character at least. -/
def bracesFrom : Nat → List Char → List Char
  | 0, cs => cs
  | _ + 1, [] => []
  | fuel + 1, c :: rest =>
    if c = '(' then
      match alternation? rest with
      | some (body, rest) =>
        '\x7b' :: body.map (fun c => if c = '|' then ',' else c) ++ '\x7d' :: bracesFrom fuel rest
      | none => c :: bracesFrom fuel rest
    else c :: bracesFrom fuel rest

/-- Choices in parentheses as choices in braces. -/
def braces (cs : List Char) : List Char :=
  bracesFrom cs.length cs

/-- Reads a table pattern. -/
def parse (pattern : String) : Except Glob.Error TablePattern :=
  let cs := Unicode.trim pattern.toList
  let (negated, cs) :=
    match cs with
    | '!' :: rest => (true, rest.dropWhile Unicode.isBlank)
    | cs => (false, cs)
  let cs := braces cs
  (Glob.parse (String.ofList cs)).map fun glob => { glob, negated, qualified := cs.contains '.' }

/-- Whether a pattern selects a table. -/
def isMatch (p : TablePattern) (schema : Option String) (table : String) : Bool :=
  let text :=
    match schema with
    | some schema => if p.qualified then schema ++ "." ++ table else table
    | none => table
  Glob.isMatch p.glob text != p.negated

end TablePattern

end TableTypes
