import TableTypes.Unicode.Alphanumeric
import TableTypes.Unicode.Blank
import TableTypes.Unicode.Category
import TableTypes.Unicode.Fold
import TableTypes.Unicode.LetterCase

/-!
# Sets of characters

The sets that one place of a pattern can match, built from ranges and named properties by the
operations of bracket expressions.
-/

namespace TableTypes.Pattern

open Unicode

/-- A set of characters. -/
inductive CharSet where
  | none
  | range (first last : Char)
  | spans (spans : List Span)
  /-- A property given by its test. -/
  | property (test : Char → Bool)
  | compl (s : CharSet)
  | union (s t : CharSet)
  | inter (s t : CharSet)
  | diff (s t : CharSet)
  /-- The characters that differ from a member at most in case. -/
  | fold (s : CharSet)

namespace CharSet

/-- Whether a character belongs to a set. -/
def contains : CharSet → Char → Bool
  | none, _ => false
  | range a b, c => a ≤ c && c ≤ b
  | spans ss, c => covers ss c
  | property test, c => test c
  | compl s, c => !s.contains c
  | union s t, c => s.contains c || t.contains c
  | inter s t, c => s.contains c && t.contains c
  | diff s t, c => s.contains c && !t.contains c
  | fold s, c => s.contains c || (otherForms c).any fun d => s.contains d

/-- The set of one character. -/
def single (c : Char) : CharSet := range c c

/-- The union of some sets. -/
def unionAll (sets : List CharSet) : CharSet := sets.foldl union none

/-- The characters that belong to exactly one of two sets. -/
def symmDiff (s t : CharSet) : CharSet := union (diff s t) (diff t s)

/-- A set or its complement. -/
def negateIf (negated : Bool) (s : CharSet) : CharSet := if negated then compl s else s

/-- The characters that differ from a member at most in the case of an ASCII letter. -/
def foldAscii (s : CharSet) : CharSet :=
  union s (property fun c => c.isAlpha && (s.contains c.toLower || s.contains c.toUpper))

/-- The decimal digits. -/
def digit : CharSet := spans Category.digit

/-- The blank characters. -/
def blank : CharSet := spans blankSpans

/-- The characters of words: letters, marks, decimal digits, connecting punctuation and the two
joiners. -/
def word : CharSet :=
  unionAll [property isAlphabetic, spans Category.mark, digit, spans Category.connector,
    range '\u200c' '\u200d']

/-- The characters of words in ASCII. -/
def asciiWord : CharSet :=
  unionAll [range '0' '9', range 'A' 'Z', range 'a' 'z', single '_']

/-- The ASCII classes of bracket expressions by name. -/
def asciiClass? (name : String) : Option CharSet :=
  let upper := range 'A' 'Z'
  let lower := range 'a' 'z'
  let digit := range '0' '9'
  match name with
  | "alnum" => some (unionAll [digit, upper, lower])
  | "alpha" => some (union upper lower)
  | "ascii" => some (range '\x00' '\x7f')
  | "blank" => some (union (single '\t') (single ' '))
  | "cntrl" => some (union (range '\x00' '\x1f') (single '\x7f'))
  | "digit" => some digit
  | "graph" => some (range '!' '~')
  | "lower" => some lower
  | "print" => some (range ' ' '~')
  | "punct" => some (unionAll [range '!' '/', range ':' '@', range '[' '\x60', range '\x7b' '~'])
  | "space" => some (union (range '\t' '\r') (single ' '))
  | "upper" => some upper
  | "word" => some asciiWord
  | "xdigit" => some (unionAll [digit, range 'A' 'F', range 'a' 'f'])
  | _ => Option.none

/-- A property name without case, blanks, underscores, hyphens and a leading `is`. -/
def looseName (cs : List Char) : String :=
  let plain := (cs.filter fun c => c ≠ ' ' && c ≠ '_' && c ≠ '-').map Char.toLower
  String.ofList <|
    match plain with
    | 'i' :: 's' :: rest => if rest = ['c'] || rest = [] then plain else rest
    | plain => plain

/-- The sets of the named Unicode properties that patterns may use: the general categories and the
classes of letters. Scripts are not among them. -/
def unicodeProperty? (name : String) : Option CharSet :=
  let letters := [Category.upper, Category.lower, Category.title]
  let all := letters ++ [Category.modifier, Category.otherLetter]
  let join := fun tables => some (unionAll (tables.map spans))
  match name with
  | "any" => some (compl none)
  | "ascii" => some (range '\x00' '\x7f')
  | "l" | "letter" => join all
  | "lc" | "casedletter" => join letters
  | "lu" | "uppercaseletter" => join [Category.upper]
  | "ll" | "lowercaseletter" => join [Category.lower]
  | "lt" | "titlecaseletter" => join [Category.title]
  | "lm" | "modifierletter" => join [Category.modifier]
  | "lo" | "otherletter" => join [Category.otherLetter]
  | "m" | "mark" | "combiningmark" => join [Category.mark]
  | "n" | "number" => some (property isNumeric)
  | "nd" | "decimalnumber" | "digit" => some digit
  | "p" | "punctuation" | "punct" => join [Category.punctuation]
  | "pc" | "connectorpunctuation" => join [Category.connector]
  | "s" | "symbol" => join [Category.symbol]
  | "z" | "separator" => join [Category.separator]
  | "alphabetic" | "alpha" => some (property isAlphabetic)
  | "lowercase" | "lower" => some (property isLowercase)
  | "uppercase" | "upper" => some (property isUppercase)
  | "whitespace" | "wspace" | "space" => some blank
  | _ => Option.none

end CharSet

end TableTypes.Pattern
