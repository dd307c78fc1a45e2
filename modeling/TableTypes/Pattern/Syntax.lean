import TableTypes.Pattern.CharSet

/-!
# Patterns

The regular expressions of singular rules as trees.
-/

namespace TableTypes.Pattern

/-- A condition on a place of the text that consumes nothing. Lines may end with a carriage return
and a line feed as well, and words are of the whole of Unicode or of ASCII alone. -/
inductive Anchor where
  | textStart
  | textEnd
  | lineStart (crlf : Bool)
  | lineEnd (crlf : Bool)
  | wordBoundary (unicode : Bool)
  | noWordBoundary (unicode : Bool)
  | wordStart (unicode : Bool)
  | wordEnd (unicode : Bool)
  | wordStartHalf (unicode : Bool)
  | wordEndHalf (unicode : Bool)
  deriving DecidableEq, Repr

/-- A regular expression. -/
inductive Regex where
  | empty
  | chars (set : CharSet)
  | anchor (a : Anchor)
  | seq (r s : Regex)
  | alt (r s : Regex)
  /-- A repetition; without an upper bound it has no limit, and a lazy one prefers fewer turns. -/
  | repeat (r : Regex) (least : Nat) (most : Option Nat) (lazy : Bool)
  | capture (index : Nat) (r : Regex)

/-- Some expressions one after the other. -/
def Regex.ofSeq : List Regex → Regex
  | [] => .empty
  | [r] => r
  | r :: rs => .seq r (ofSeq rs)

/-- A choice between some expressions, the first one preferred. -/
def Regex.ofAlt : List Regex → Regex
  | [] => .empty
  | [r] => r
  | r :: rs => .alt r (ofAlt rs)

/-- Whether an expression can match without consuming a character. -/
def Regex.nullable : Regex → Bool
  | .empty => true
  | .chars _ => false
  | .anchor _ => true
  | .seq r s => r.nullable && s.nullable
  | .alt r s => r.nullable || s.nullable
  | .repeat r least _ _ => least = 0 || r.nullable
  | .capture _ r => r.nullable

/-- A pattern: its expression, the number of its groups with the whole match as group zero, and the
groups that have names. -/
structure Compiled where
  regex : Regex
  groups : Nat
  names : List (String × Nat)

end TableTypes.Pattern
