import TableTypes.Unicode.Alphanumeric
import TableTypes.Unicode.LetterCase
import TableTypes.Unicode.CaseMap

/-!
# Words of a name

Two ways to cut a name into words. `words` cuts at characters that are neither letters nor numbers,
between letters and digits and where the case says so; `caseWords` knows no digits and tells the
case of a run from the last letters it has seen.
-/

namespace TableTypes.Naming

open Unicode

/-- Whether a word ends after `last` when `c` follows it and `next` follows `c`: between a digit and
another character, between a small and a capital letter, and before the last capital of several
when a small letter follows. -/
def wordEnds (last c : Char) (next : Option Char) : Bool :=
  if c.isDigit then !last.isDigit
  else if last.isDigit then true
  else if isUppercase c then
    isLowercase last || (isUppercase last && next.any isLowercase)
  else false

/-- The finished word whose letters are given in reverse, if it has any. -/
def finish (word : List Char) : List (List Char) :=
  if word.isEmpty then [] else [word.reverse]

/-- The words of the remaining characters, where `word` holds the one begun, in reverse. -/
def wordsFrom (word : List Char) : List Char → List (List Char)
  | [] => finish word
  | c :: rest =>
    if !isAlphanumeric c then finish word ++ wordsFrom [] rest
    else
      match word with
      | [] => wordsFrom [c] rest
      | last :: _ =>
        if wordEnds last c rest.head? then word.reverse :: wordsFrom [c] rest
        else wordsFrom (c :: word) rest

/-- The words of a name. -/
def words (name : List Char) : List (List Char) :=
  wordsFrom [] name

/-- What the letters of the word begun say about its case. -/
inductive Run where
  | fresh
  | small
  | capital
  deriving DecidableEq

/-- The words of the remaining characters of a run of letters and numbers, where `word` holds the
one begun, in reverse. A word ends after a small letter that a capital follows, and before a capital
between a capital and a small letter. -/
def caseWordsFrom (run : Run) (word : List Char) : List Char → List (List Char)
  | [] => finish word
  | [c] => [(c :: word).reverse]
  | c :: next :: rest =>
    let after := if isLowercase c then .small else if isUppercase c then .capital else run
    if after = .small && isUppercase next then
      (c :: word).reverse :: caseWordsFrom .fresh [] (next :: rest)
    else if run = .capital && isUppercase c && isLowercase next then
      word.reverse :: caseWordsFrom .fresh [c] (next :: rest)
    else caseWordsFrom after (c :: word) (next :: rest)

/-- The runs of letters and numbers of a name. -/
def runs (name : List Char) : List (List Char) :=
  name.foldr
    (fun c (rs : List (List Char)) =>
      if isAlphanumeric c then
        match rs with
        | [] => [[c]]
        | r :: rs => (c :: r) :: rs
      else [] :: rs)
    [[]]

/-- The words of a name by letter case alone. -/
def caseWords (name : List Char) : List (List Char) :=
  (runs name).flatMap (caseWordsFrom .fresh [])

/-- Small letters, where a capital sigma at the end becomes the final one. -/
def lowerWord : List Char → List Char
  | [] => []
  | ['Σ'] => ['ς']
  | c :: rest => toLower c ++ lowerWord rest

/-- A word with a capital first letter and small other letters. -/
def capitalize : List Char → List Char
  | [] => []
  | c :: rest => toUpper c ++ lowerWord rest

end TableTypes.Naming
