import TableTypes.Naming.Words
import TableTypes.Pattern.Parser
import TableTypes.Pattern.Replace
import TableTypes.Unicode.Fold

/-!
# Singular forms

Table names are mostly plural and the names of their interfaces singular. Rules given by the user
come first; then words without a singular form and irregular plurals, each as the last whole word of
a name; then the rules for endings, of which the first that fits decides.
-/

namespace TableTypes.Naming

open Unicode

/-- Plurals with a singular form of their own. -/
def irregulars : List (List Char × List Char) :=
  [("people", "person"), ("children", "child"), ("men", "man"), ("women", "woman"),
    ("feet", "foot"), ("teeth", "tooth"), ("mice", "mouse"), ("indices", "index")].map
      fun (plural, singular) => (plural.toList, singular.toList)

/-- Words that are the same in singular and plural. -/
def uncountables : List (List Char) :=
  ["data", "equipment", "information", "metadata", "news", "series", "species"].map String.toList

/-- What must stand before the ending of a plural for a rule to apply. -/
inductive Stem where
  | anything
  /-- One of some texts, whatever the case. -/
  | oneOf (texts : List (List Char))
  /-- One of some texts, or any character but some letters. -/
  | oneOfOrNot (texts : List (List Char)) (letters : List Char)

/-- A rule that puts one ending in place of another after certain stems. -/
structure EndingRule where
  stem : Stem
  ending : List Char
  singular : List Char

/-- The rules for endings, the first that applies deciding. -/
def endingRules : List EndingRule :=
  let rule := fun (stems : List String) (ending singular : String) =>
    EndingRule.mk (.oneOf (stems.map String.toList)) ending.toList singular.toList
  [ rule ["status", "alias", "bus", "campus"] "es" "",
    rule ["analy", "ba", "diagno", "the", "synop", "parenthe", "cri"] "ses" "sis",
    rule ["hero", "potato", "tomato", "echo", "veto"] "es" "",
    rule ["kni", "wi", "li"] "ves" "fe",
    rule ["lea", "shel", "sel", "hal", "cal", "loa", "thie"] "ves" "f",
    { stem := .oneOfOrNot ["qu".toList] "aeiouy".toList
      ending := "ies".toList
      singular := "y".toList },
    rule ["x", "ch", "sh", "ss", "z"] "es" "",
    rule ["ss", "us", "is"] "" "",
    { stem := .anything, ending := "s".toList, singular := [] } ]

/-- Whether two texts differ at most in case. -/
def foldEqText : List Char → List Char → Bool
  | [], [] => true
  | a :: as, b :: bs => foldEq a b && foldEqText as bs
  | _, _ => false

/-- Whether a name ends in a text, whatever the case. -/
def endsAlike (name text : List Char) : Bool :=
  text.length ≤ name.length && foldEqText (name.drop (name.length - text.length)) text

/-- Whether a rule admits what stands before an ending. -/
def Stem.admits (front : List Char) : Stem → Bool
  | .anything => true
  | .oneOf texts => texts.any (endsAlike front)
  | .oneOfOrNot texts letters =>
    texts.any (endsAlike front) || front.getLast?.any fun c => !letters.any (foldEq c)

/-- A name with the singular ending of a rule, if the rule applies. -/
def EndingRule.apply? (r : EndingRule) (name : List Char) : Option (List Char) :=
  let front := name.take (name.length - r.ending.length)
  if endsAlike name r.ending && r.stem.admits front then some (front ++ r.singular) else none

/-- Whether `word` is the last whole word of a name whose lower case is `lower`: the character before
it is no letter or number, or its first character is a capital. -/
def endsWithWord (name lower word : List Char) : Bool :=
  word.isSuffixOf lower &&
    let start := name.length - word.length
    if start = 0 then true
    else
      (name.take start).getLast?.any (fun c => !isAlphanumeric c)
        || (name.drop start).head?.any isUppercase

/-- A singular form with a capital if the plural has one. -/
def matchCase (plural singular : List Char) : List Char :=
  if plural.head?.any isUppercase then
    match singular with
    | [] => []
    | c :: rest => toUpper c ++ rest
  else singular

/-- A rule given by the user: a pattern and what replaces its first match. -/
structure SingularRule where
  pattern : Pattern.Compiled
  replacement : List Char

/-- The singular form by the built-in rules. -/
def builtinSingular (name : List Char) : List Char :=
  let lower := lowerFrom [] name
  if uncountables.any (endsWithWord name lower) then name
  else
    match irregulars.find? fun entry => endsWithWord name lower entry.1 with
    | some (plural, singular) =>
      let start := name.length - plural.length
      name.take start ++ matchCase (name.drop start) singular
    | none => (endingRules.findSome? fun rule => rule.apply? name).getD name

/-- The singular form of a name: by the first rule of the user that matches, and otherwise by the
built-in ones. -/
def singularize (rules : List SingularRule) (name : List Char) : List Char :=
  (rules.findSome? fun rule => rule.pattern.replaceFirst? rule.replacement name).getD
    (builtinSingular name)

/-- The rules of the user by pattern, or `none` if one of the patterns cannot be read. -/
def readRules? (rules : List (String × String)) : Option (List SingularRule) :=
  rules.mapM fun (pattern, replacement) =>
    (Pattern.parse? pattern).map fun pattern => { pattern, replacement := replacement.toList }

end TableTypes.Naming
