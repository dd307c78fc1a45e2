import TableTypes.Glob.Basic

/-!
# Matching globs

A token matches the beginning of a list of bytes if what remains satisfies a condition. Whole texts
match when nothing remains after the last token. Branches of a choice that say nothing are left out,
so `user(|s)` does not match `user`; a choice of which no branch is left says nothing itself.
-/

namespace TableTypes.Glob

/-- A letter of ASCII in lower case, and any other byte as it is. -/
def lowerByte (b : UInt8) : UInt8 :=
  if 65 ≤ b && b ≤ 90 then b + 32 else b

/-- The bytes of a text. -/
def bytes (s : String) : List UInt8 :=
  s.toList.flatMap String.utf8EncodeChar

/-- Whether some bytes stand at the beginning, whatever the case of their letters, and the rest
satisfies a condition. -/
def afterBytes (k : List UInt8 → Bool) : List UInt8 → List UInt8 → Bool
  | [], rest => k rest
  | _ :: _, [] => false
  | b :: bs, c :: cs => lowerByte b == lowerByte c && afterBytes k bs cs

/-- Whether some end of the bytes satisfies a condition. -/
def someEnd (k : List UInt8 → Bool) : List UInt8 → Bool
  | [] => k []
  | c :: cs => k (c :: cs) || someEnd k cs

/-- Whether what follows some slash satisfies a condition. -/
def afterSomeSlash (k : List UInt8 → Bool) : List UInt8 → Bool
  | [] => false
  | c :: cs => (c == 47 && k cs) || afterSomeSlash k cs

/-- Whether a slash comes first and what follows it satisfies a condition. -/
def afterSlash (k : List UInt8 → Bool) : List UInt8 → Bool
  | [] => false
  | c :: cs => c == 47 && k cs

/-- The ranges of bytes for a range of characters: each byte of its two ends by itself, with the last
byte of the first end and the first byte of the last end joined to a range. -/
def byteRanges (range : Char × Char) : List (UInt8 × UInt8) :=
  let first := String.utf8EncodeChar range.1
  let last := String.utf8EncodeChar range.2
  if range.1 = range.2 then first.map fun b => (b, b)
  else
    first.dropLast.map (fun b => (b, b))
      ++ (match first.getLast?, last.head? with
        | some a, some b => [(a, b)]
        | _, _ => [])
      ++ last.tail.map fun b => (b, b)

/-- Whether a byte lies in one of some ranges. -/
def inRanges (ranges : List (UInt8 × UInt8)) (b : UInt8) : Bool :=
  ranges.any fun (first, last) => first ≤ b && b ≤ last

/-- A letter of ASCII in the other case, and any other byte as it is. -/
def otherCase (b : UInt8) : UInt8 :=
  if 65 ≤ b && b ≤ 90 then b + 32 else if 97 ≤ b && b ≤ 122 then b - 32 else b

/-- Whether a bracket expression matches a byte. -/
def classMatches (negated : Bool) (ranges : List (Char × Char)) (b : UInt8) : Bool :=
  let ranges := ranges.flatMap byteRanges
  (inRanges ranges b || inRanges ranges (otherCase b)) != negated

mutual

/-- Whether a token says nothing: a choice between branches that say nothing. -/
def Token.saysNothing : Token → Bool
  | .choice branches => allSayNothing branches
  | _ => false

/-- Whether no token of a branch says anything. -/
def branchSaysNothing : List Token → Bool
  | [] => true
  | t :: ts => t.saysNothing && branchSaysNothing ts

/-- Whether no branch of a choice says anything. -/
def allSayNothing : List (List Token) → Bool
  | [] => true
  | b :: bs => branchSaysNothing b && allSayNothing bs

end

mutual

/-- Whether a token matches a beginning of the bytes whose rest satisfies a condition. -/
def Token.matchesThen (k : List UInt8 → Bool) : Token → List UInt8 → Bool
  | .literal c, bs => afterBytes k (String.utf8EncodeChar c) bs
  | .anyOne, bs =>
    match bs with
    | [] => false
    | _ :: bs => k bs
  | .anyMany, bs => someEnd k bs
  | .leadingDirs, bs => k bs || afterSomeSlash k bs
  | .trailingDirs, bs => afterSlash (someEnd k) bs
  | .innerDirs, bs => afterSlash (fun bs => k bs || afterSomeSlash k bs) bs
  | .charClass negated ranges, bs =>
    match bs with
    | [] => false
    | b :: bs => classMatches negated ranges b && k bs
  | .choice branches, bs => if allSayNothing branches then k bs else someMatchThen k branches bs

/-- Whether some tokens match one after the other, and the rest satisfies a condition. -/
def allMatchThen (k : List UInt8 → Bool) : List Token → List UInt8 → Bool
  | [], bs => k bs
  | t :: ts, bs => t.matchesThen (allMatchThen k ts) bs

/-- Whether one of some branches says something and matches, and the rest satisfies a condition. -/
def someMatchThen (k : List UInt8 → Bool) : List (List Token) → List UInt8 → Bool
  | [], _ => false
  | b :: bs, text => !branchSaysNothing b && allMatchThen k b text || someMatchThen k bs text

end

/-- Whether a glob matches a text. A glob that is nothing but directories matches every text. -/
def isMatch (tokens : List Token) (text : String) : Bool :=
  match tokens with
  | [.leadingDirs] => true
  | tokens => allMatchThen List.isEmpty tokens (bytes text)

end TableTypes.Glob
