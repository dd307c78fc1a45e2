import TableTypes.Pattern.Machine

/-!
# Replacing a match

A replacement text names the groups of the match: `$1`, `$name`, `${1}` and `${name}` stand for what
a group matched and `$$` for a dollar sign. A group that does not exist or took no part gives the
empty text.
-/

namespace TableTypes.Pattern

/-- What a group matched. -/
def groupText (text : List Char) (slots : Slots) (i : Nat) : List Char :=
  match slots[2 * i]?.join, slots[2 * i + 1]?.join with
  | some a, some b => (text.drop a).take (b - a)
  | _, _ => []

/-- A number written in digits, with an optional plus sign before it. -/
def groupNumber? (name : List Char) : Option Nat :=
  let digits := if name.head? = some '+' then name.tail else name
  if digits.isEmpty || !digits.all Char.isDigit then none
  else some (digits.foldl (fun n c => 10 * n + (c.toNat - 48)) 0)

/-- What the group with a number or a name matched. -/
def namedGroup (c : Compiled) (text : List Char) (slots : Slots) (name : List Char) : List Char :=
  match groupNumber? name with
  | some i => groupText text slots i
  | none =>
    match c.names.lookup (String.ofList name) with
    | some i => groupText text slots i
    | none => []

/-- The parts of a replacement text. -/
inductive Piece where
  | literal (c : Char)
  | group (name : List Char)

/-- Whether a character belongs to a group name without braces. -/
def isReferenceChar (c : Char) : Bool := c.isAlphanum || c = '_'

/-- The parts of a replacement text; each turn takes a character at least. -/
def pieces : Nat → List Char → List Piece
  | 0, _ => []
  | _ + 1, [] => []
  | fuel + 1, '$' :: '$' :: rest => .literal '$' :: pieces fuel rest
  | fuel + 1, '$' :: '\x7b' :: rest =>
    match rest.dropWhile (· ≠ '\x7d') with
    | _ :: after => .group (rest.takeWhile (· ≠ '\x7d')) :: pieces fuel after
    | [] => .literal '$' :: pieces fuel ('\x7b' :: rest)
  | fuel + 1, '$' :: rest =>
    match rest.takeWhile isReferenceChar with
    | [] => .literal '$' :: pieces fuel rest
    | name => .group name :: pieces fuel (rest.dropWhile isReferenceChar)
  | fuel + 1, c :: rest => .literal c :: pieces fuel rest

/-- A replacement text with its group names filled in. -/
def expand (c : Compiled) (text : List Char) (slots : Slots) (replacement : List Char) :
    List Char :=
  (pieces (replacement.length + 1) replacement).flatMap fun
    | .literal c => [c]
    | .group name => namedGroup c text slots name

/-- A text with its first match replaced, or `none` if nothing matches. -/
def Compiled.replaceFirst? (c : Compiled) (replacement text : List Char) : Option (List Char) :=
  (c.match? text).map fun slots =>
    match slots[0]?.join, slots[1]?.join with
    | some a, some b => text.take a ++ expand c text slots replacement ++ text.drop b
    | _, _ => text

end TableTypes.Pattern
