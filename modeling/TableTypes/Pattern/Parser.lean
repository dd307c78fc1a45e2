import TableTypes.Pattern.Syntax

/-!
# Reading patterns

The reader of regular expressions. `parse?` gives nothing for a text that is no pattern: an unclosed
group or bracket, a repetition of nothing, a range that runs backwards, an unknown escape, all forms
of look-around and back-references, and parts that are nested too deep. Where Unicode is switched
off, sets are of ASCII, and a set with other bytes in it is refused.
-/

namespace TableTypes.Pattern

open Unicode

/-- The switches that a pattern can set. -/
structure Flags where
  ignoreCase : Bool := false
  multiLine : Bool := false
  dotAll : Bool := false
  swapGreed : Bool := false
  unicode : Bool := true
  extended : Bool := false
  crlf : Bool := false

/-- One thing that stands in a sequence: an expression with the depth to which it is nested, or
switches, which cannot be repeated. -/
inductive Item where
  | term (r : Regex) (depth : Nat)
  | switches

/-- A group that is still open: its number if it captures, the switches to go back to, and its
finished alternatives with their depths and its present sequence, the last one first. -/
structure Frame where
  capture : Option Nat
  saved : Flags
  alternatives : List (Regex × Nat)
  items : List Item

/-- The depth of some parts together: a single one adds none, and several are nested once more. -/
def joinedDepth : List Nat → Nat
  | [] => 0
  | [depth] => depth
  | depths => depths.foldl max 0 + 1

/-- The depth to which a pattern can be nested. -/
def nestLimit : Nat := 250

/-- The state of the reader: the switches in force, the groups seen and the open groups, the
innermost one first. -/
structure Reader where
  flags : Flags
  groups : Nat
  names : List (String × Nat)
  top : Frame
  outer : List Frame

/-- The rest after blanks and comments where the switches ignore them. -/
def skipBlanks (flags : Flags) : List Char → List Char
  | [] => []
  | c :: rest =>
    if !flags.extended then c :: rest
    else if isBlank c then skipBlanks flags rest
    else if c = '#' then skipComment flags rest
    else c :: rest
where
  /-- The rest after the end of a comment. -/
  skipComment (flags : Flags) : List Char → List Char
    | [] => []
    | c :: rest => if c = '\n' then skipBlanks flags rest else skipComment flags rest

/-- The expression of a sequence and its depth. -/
def Frame.sequence (f : Frame) : Regex × Nat :=
  let expressions := f.items.reverse.filterMap fun
    | .term r _ => some r
    | .switches => none
  let depths := f.items.map fun
    | .term _ depth => depth
    | .switches => 0
  (.ofSeq expressions, joinedDepth depths)

/-- The expression of a finished group, without its capture, and its depth. -/
def Frame.body (f : Frame) : Regex × Nat :=
  let parts := (f.sequence :: f.alternatives).reverse
  (.ofAlt (parts.map (·.1)), joinedDepth (parts.map (·.2)))

/-- Adds a thing to the present sequence. -/
def Reader.push (r : Reader) (i : Item) : Reader :=
  { r with top := { r.top with items := i :: r.top.items } }

/-- A set that ignores case where the switches do, of ASCII letters alone without Unicode. -/
def foldIf (flags : Flags) (s : CharSet) : CharSet :=
  if !flags.ignoreCase then s else if flags.unicode then .fold s else s.foldAscii

/-- The set for one character. -/
def literalSet (flags : Flags) (c : Char) : CharSet :=
  foldIf flags (.single c)

/-- Whether a set can stand in a pattern. Without Unicode all sets are made of ASCII characters, so
that they hold all other bytes or none of them. -/
def Flags.admits (flags : Flags) (s : CharSet) : Bool :=
  flags.unicode || !s.contains '\x80'

/-- The value of hexadecimal digits. -/
def hexValue? : List Char → Option Nat
  | [] => none
  | cs => cs.foldlM (fun n c =>
      if c.isDigit then some (16 * n + (c.toNat - 48))
      else if 'a' ≤ c.toLower && c.toLower ≤ 'f' then some (16 * n + (c.toLower.toNat - 87))
      else none) 0

/-- The character with a code, if there is one. -/
def charOfCode? (n : Nat) : Option Char :=
  if n.isValidChar then some (Char.ofNat n) else none

/-- A character given by its code after `\x`, `\u` or `\U`, in braces or with `width` digits. -/
def hexEscape? (width : Nat) : List Char → Option (Char × List Char)
  | '\x7b' :: rest =>
    let digits := rest.takeWhile (· ≠ '\x7d')
    match rest.dropWhile (· ≠ '\x7d') with
    | _ :: rest => ((hexValue? digits).bind charOfCode?).map (·, rest)
    | [] => none
  | rest =>
    if rest.length < width then none
    else ((hexValue? (rest.take width)).bind charOfCode?).map (·, rest.drop width)

/-- A byte given by two digits after `\x`, or a character in braces. Without Unicode a byte must be
one of ASCII. -/
def byteEscape? (flags : Flags) (cs : List Char) : Option (Char × List Char) := do
  let (c, rest) ← hexEscape? 2 cs
  if flags.unicode || cs.head? = some '\x7b' || c.toNat < 128 then return (c, rest) else none

/-- The set of a named property after `\p` or `\P`. -/
def propertyEscape? (flags : Flags) (negated : Bool) : List Char → Option (CharSet × List Char)
  | '\x7b' :: rest =>
    let body := rest.takeWhile (· ≠ '\x7d')
    match rest.dropWhile (· ≠ '\x7d') with
    | [] => none
    | _ :: rest =>
      let (negated, body) :=
        match body with
        | '^' :: body => (!negated, body)
        | body => (negated, body)
      (CharSet.unicodeProperty? (CharSet.looseName body)).map fun s =>
        ((foldIf flags s).negateIf negated, rest)
  | c :: rest =>
    (CharSet.unicodeProperty? (CharSet.looseName [c])).map fun s =>
      ((foldIf flags s).negateIf negated, rest)
  | [] => none

/-- What a backslash and the characters after it stand for. -/
inductive Escape where
  | literal (c : Char)
  | set (s : CharSet)
  | anchor (a : Anchor)

/-- A shorthand class and its complement, which needs Unicode text. -/
def shorthand? (flags : Flags) (negated : Bool) (full ascii : CharSet) : Option Escape :=
  if flags.unicode then some (.set (full.negateIf negated))
  else if negated then none
  else some (.set ascii)

/-- Whether a character may be escaped to stand for itself. -/
def isEscapable (c : Char) : Bool :=
  c.toNat < 128 && !c.isAlphanum && c ≠ '<' && c ≠ '>'

/-- The anchor named in braces after `\b`, if one is. -/
def boundaryName? (flags : Flags) (rest : List Char) : Option (Option (Anchor × List Char)) :=
  match rest with
  | '\x7b' :: body =>
    let name := String.ofList (body.takeWhile fun c => c.isAlpha || c = '-')
    match body.dropWhile fun c => c.isAlpha || c = '-' with
    | '\x7d' :: rest =>
      match name with
      | "start" => some (some (.wordStart flags.unicode, rest))
      | "end" => some (some (.wordEnd flags.unicode, rest))
      | "start-half" => some (some (.wordStartHalf flags.unicode, rest))
      | "end-half" => some (some (.wordEndHalf flags.unicode, rest))
      | _ => none
    | _ => if name = "" then some none else none
  | _ => some none

/-- Reads what follows a backslash. -/
def escape? (flags : Flags) : List Char → Option (Escape × List Char)
  | [] => none
  | c :: rest =>
    match c with
    | 'x' => (byteEscape? flags rest).map fun (c, rest) => (.literal c, rest)
    | 'u' => (hexEscape? 4 rest).map fun (c, rest) => (.literal c, rest)
    | 'U' => (hexEscape? 8 rest).map fun (c, rest) => (.literal c, rest)
    | 'p' =>
      if flags.unicode then (propertyEscape? flags false rest).map fun (s, rest) => (.set s, rest)
      else none
    | 'P' =>
      if flags.unicode then (propertyEscape? flags true rest).map fun (s, rest) => (.set s, rest)
      else none
    | 'd' => (shorthand? flags false .digit (.range '0' '9')).map (·, rest)
    | 'D' => (shorthand? flags true .digit (.range '0' '9')).map (·, rest)
    | 's' => (shorthand? flags false .blank (.union (.range '\t' '\r') (.single ' '))).map (·, rest)
    | 'S' => (shorthand? flags true .blank .none).map (·, rest)
    | 'w' => (shorthand? flags false .word .asciiWord).map (·, rest)
    | 'W' => (shorthand? flags true .word .none).map (·, rest)
    | 'a' => some (.literal '\x07', rest)
    | 'f' => some (.literal '\x0c', rest)
    | 't' => some (.literal '\t', rest)
    | 'n' => some (.literal '\n', rest)
    | 'r' => some (.literal '\r', rest)
    | 'v' => some (.literal '\x0b', rest)
    | 'A' => some (.anchor .textStart, rest)
    | 'z' => some (.anchor .textEnd, rest)
    | 'B' => some (.anchor (.noWordBoundary flags.unicode), rest)
    | '<' => some (.anchor (.wordStart flags.unicode), rest)
    | '>' => some (.anchor (.wordEnd flags.unicode), rest)
    | 'b' =>
      match boundaryName? flags rest with
      | none => none
      | some none => some (.anchor (.wordBoundary flags.unicode), rest)
      | some (some (a, rest)) => some (.anchor a, rest)
    | c => if isEscapable c then some (.literal c, rest) else none

/-- An ASCII class such as `[:alpha:]`, after its opening bracket. -/
def asciiClass? (flags : Flags) : List Char → Option (CharSet × List Char)
  | ':' :: rest =>
    let (negated, rest) :=
      match rest with
      | '^' :: rest => (true, rest)
      | rest => (false, rest)
    match rest.dropWhile (· ≠ ':') with
    | ':' :: ']' :: after =>
      (CharSet.asciiClass? (String.ofList (rest.takeWhile (· ≠ ':')))).map fun s =>
        ((foldIf flags s).negateIf negated, after)
    | _ => none
  | _ => none

/-- One end of a range in a bracket expression, or a set. Without Unicode only characters of ASCII
can stand there. -/
def classItem? (flags : Flags) (cs : List Char) : Option (Escape × List Char) :=
  let item :=
    match cs with
    | [] => none
    | '\\' :: rest => escape? flags rest
    | c :: rest => some (.literal c, rest)
  match item with
  | some (.anchor _, _) => none
  | some (.literal c, rest) =>
    if flags.unicode || c.toNat < 128 then some (.literal c, rest) else none
  | item => item

/-- A range, a character or a set in a bracket expression. -/
def classRange? (flags : Flags) (cs : List Char) : Option (CharSet × List Char) :=
  match classItem? flags cs with
  | none => none
  | some (.anchor _, _) => none
  | some (.set s, rest) =>
    match skipBlanks flags rest with
    | '-' :: after =>
      match skipBlanks flags after with
      | ']' :: _ => some (s, '-' :: after)
      | '-' :: _ => some (s, '-' :: after)
      | _ => none
    | rest => some (s, rest)
  | some (.literal a, rest) =>
    match skipBlanks flags rest with
    | '-' :: after =>
      match skipBlanks flags after with
      | ']' :: _ => some (.single a, '-' :: after)
      | '-' :: _ => some (.single a, '-' :: after)
      | after =>
        match classItem? flags after with
        | some (.literal b, rest) => if a ≤ b then some (.range a b, rest) else none
        | _ => none
    | rest => some (.single a, rest)

/-- The operations between the parts of a bracket expression. -/
inductive SetOp where
  | inter
  | diff
  | symmDiff

/-- The set of two parts of a bracket expression. -/
def SetOp.apply : SetOp → CharSet → CharSet → CharSet
  | inter => .inter
  | diff => .diff
  | symmDiff => .symmDiff

/-- What stands in a bracket expression since the last operator: its set and the depths of its
items. -/
structure ClassPart where
  set : CharSet
  depths : List Nat

/-- Adds an item behind those of a part. -/
def ClassPart.add (part : ClassPart) (s : CharSet) (depth : Nat) : ClassPart :=
  { set := .union part.set s, depths := depth :: part.depths }

/-- What stands before an operator, with its depth. -/
structure ClassOperand where
  set : CharSet
  depth : Nat
  operator : SetOp

/-- The part before an operator joined with those before it, and its depth. -/
def joinPart (flags : Flags) (pending : Option ClassOperand) (part : ClassPart) : CharSet × Nat :=
  let depth := joinedDepth part.depths
  match pending with
  | none => (part.set, depth)
  | some left =>
    (left.operator.apply (foldIf flags left.set) (foldIf flags part.set), max left.depth depth + 1)

mutual

/-- Reads a bracket expression after its opening bracket, and gives its depth with it. -/
def bracket? (flags : Flags) : Nat → List Char → Option (CharSet × Nat × List Char)
  | 0, _ => none
  | fuel + 1, cs =>
    let cs := skipBlanks flags cs
    let (negated, cs) :=
      match cs with
      | '^' :: rest => (true, skipBlanks flags rest)
      | cs => (false, cs)
    let dashes := cs.takeWhile (· = '-')
    let cs := cs.dropWhile (· = '-')
    let start : ClassPart :=
      { set := if dashes.isEmpty then .none else .single '-', depths := dashes.map fun _ => 0 }
    let (start, cs) :=
      match dashes, cs with
      | [], ']' :: rest => (start.add (.single ']') 0, rest)
      | _, cs => (start, cs)
    match bracketBody? flags fuel none start cs with
    | some (s, depth, rest) =>
      let s := (foldIf flags s).negateIf negated
      if flags.admits s then some (s, depth + 1, rest) else none
    | none => none

/-- Reads the rest of a bracket expression, where `part` holds what stands there since the last
operator. -/
def bracketBody? (flags : Flags) : Nat → Option ClassOperand → ClassPart → List Char →
    Option (CharSet × Nat × List Char)
  | 0, _, _, _ => none
  | fuel + 1, pending, part, cs =>
    let behind := fun operator rest =>
      let (set, depth) := joinPart flags pending part
      bracketBody? flags fuel (some { set, depth, operator }) { set := .none, depths := [] } rest
    match skipBlanks flags cs with
    | [] => none
    | ']' :: rest =>
      let (s, depth) := joinPart flags pending part
      some (s, depth, rest)
    | '[' :: rest =>
      match asciiClass? flags rest with
      | some (s, rest) =>
        if flags.admits s then bracketBody? flags fuel pending (part.add s 0) rest else none
      | none =>
        match bracket? flags fuel rest with
        | some (s, depth, rest) => bracketBody? flags fuel pending (part.add s depth) rest
        | none => none
    | '&' :: '&' :: rest => behind .inter rest
    | '-' :: '-' :: rest => behind .diff rest
    | '~' :: '~' :: rest => behind .symmDiff rest
    | cs =>
      match classRange? flags cs with
      | some (s, rest) => bracketBody? flags fuel pending (part.add s 0) rest
      | none => none

end

/-- The characters that a dot stands for. -/
def dotSet? (flags : Flags) : Option CharSet :=
  if !flags.unicode then none
  else if flags.dotAll then some (.compl .none)
  else if flags.crlf then some (.compl (.union (.single '\n') (.single '\r')))
  else some (.compl (.single '\n'))

/-- Puts a repetition on the last expression of the sequence. -/
def Reader.repeatLast? (r : Reader) (least : Nat) (most : Option Nat) (lazy : Bool) :
    Option Reader :=
  match r.top.items with
  | .term t depth :: items =>
    let t := .repeat t least most (lazy != r.flags.swapGreed)
    some { r with top := { r.top with items := .term t (depth + 1) :: items } }
  | _ => none

/-- A question mark after a repetition makes it lazy. -/
def takeLazy : List Char → Bool × List Char
  | '?' :: rest => (true, rest)
  | rest => (false, rest)

/-- A count of a repetition, with blanks around it. -/
def count? (cs : List Char) : Option Nat × List Char :=
  let cs := cs.dropWhile isBlank
  let digits := cs.takeWhile Char.isDigit
  let value := digits.foldl (fun n c => 10 * n + (c.toNat - 48)) 0
  (if digits.isEmpty || UInt32.size ≤ value then none else some value,
    (cs.dropWhile Char.isDigit).dropWhile isBlank)

/-- Reads the counts of a repetition after its opening brace. -/
def counts? (flags : Flags) (cs : List Char) : Option (Nat × Option Nat × List Char) :=
  match count? (skipBlanks flags cs) with
  | (some least, '\x7d' :: rest) => some (least, some least, rest)
  | (some least, ',' :: rest) =>
    match skipBlanks flags rest with
    | '\x7d' :: rest => some (least, none, rest)
    | rest =>
      match count? rest with
      | (some most, '\x7d' :: rest) => if least ≤ most then some (least, some most, rest) else none
      | _ => none
  | _ => none

/-- Sets one switch. -/
def Flags.set? (f : Flags) (on : Bool) : Char → Option Flags
  | 'i' => some { f with ignoreCase := on }
  | 'm' => some { f with multiLine := on }
  | 's' => some { f with dotAll := on }
  | 'U' => some { f with swapGreed := on }
  | 'u' => some { f with unicode := on }
  | 'R' => some { f with crlf := on }
  | 'x' => some { f with extended := on }
  | _ => none

/-- Reads switches up to the colon or parenthesis that ends them; `seen` holds those read. -/
def switches? (f : Flags) (on : Bool) (seen : List Char) : List Char →
    Option (Flags × List Char × List Char)
  | [] => none
  | c :: rest =>
    if c = ':' || c = ')' then
      if seen.head? = some '-' then none else some (f, seen, c :: rest)
    else if seen.contains c then none
    else if c = '-' then switches? f false (c :: seen) rest
    else
      match f.set? on c with
      | some f => switches? f on (c :: seen) rest
      | none => none

/-- Whether a character may stand in the name of a group. -/
def isGroupName : List Char → Bool
  | [] => false
  | c :: rest =>
    (c = '_' || isAlphabetic c) &&
      rest.all fun c => c = '_' || c = '.' || c = '[' || c = ']' || isAlphanumeric c

/-- Opens a group. -/
def Reader.openGroup (r : Reader) (capture : Option Nat) (flags : Flags) : Reader :=
  { r with
    flags
    top := { capture, saved := r.flags, alternatives := [], items := [] }
    outer := r.top :: r.outer }

/-- Opens the next capturing group. -/
def Reader.openCapture (r : Reader) : Reader :=
  { r.openGroup (some r.groups) r.flags with groups := r.groups + 1 }

/-- Opens a group with a name. -/
def Reader.openNamed? (r : Reader) (cs : List Char) : Option (Reader × List Char) :=
  let name := cs.takeWhile (· ≠ '>')
  match cs.dropWhile (· ≠ '>') with
  | _ :: rest =>
    let key := String.ofList name
    if isGroupName name && !(r.names.any (·.1 = key)) then
      some ({ r.openCapture with names := (key, r.groups) :: r.names }, rest)
    else none
  | [] => none

/-- Reads what follows an opening parenthesis. -/
def Reader.group? (r : Reader) (cs : List Char) : Option (Reader × List Char) :=
  match skipBlanks r.flags cs with
  | '?' :: '=' :: _ => none
  | '?' :: '!' :: _ => none
  | '?' :: '<' :: '=' :: _ => none
  | '?' :: '<' :: '!' :: _ => none
  | '?' :: 'P' :: '<' :: rest => r.openNamed? rest
  | '?' :: '<' :: rest => r.openNamed? rest
  | '?' :: rest =>
    match switches? r.flags true [] rest with
    | some (f, _, ':' :: rest) => some (r.openGroup none f, rest)
    | some (f, seen, _ :: rest) =>
      if seen.isEmpty then none else some ({ r with flags := f }.push .switches, rest)
    | _ => none
  | rest => some (r.openCapture, rest)

/-- Closes the innermost group. -/
def Reader.close? (r : Reader) : Option Reader :=
  match r.outer with
  | [] => none
  | frame :: outer =>
    let (body, depth) := r.top.body
    let group :=
      match r.top.capture with
      | some i => Regex.capture i body
      | none => body
    some ({ r with flags := r.top.saved, top := frame, outer }.push (.term group (depth + 1)))

/-- Begins the next alternative. -/
def Reader.nextAlternative (r : Reader) : Reader :=
  { r with
    top := { r.top with alternatives := r.top.sequence :: r.top.alternatives, items := [] } }

/-- The expression for an escape outside brackets. -/
def Escape.regex (flags : Flags) : Escape → Regex
  | .literal c => .chars (literalSet flags c)
  | .set s => .chars (foldIf flags s)
  | .anchor a => .anchor a

/-- Reads one piece of a pattern. -/
def Reader.step? (r : Reader) (c : Char) (rest : List Char) : Option (Reader × List Char) :=
  let repeated := fun (least : Nat) (most : Option Nat) (rest : List Char) =>
    let (lazy, rest) := takeLazy rest
    (r.repeatLast? least most lazy).map (·, rest)
  match c with
  | '(' => r.group? rest
  | ')' => r.close?.map (·, rest)
  | '|' => some (r.nextAlternative, rest)
  | '*' => repeated 0 none rest
  | '+' => repeated 1 none rest
  | '?' => repeated 0 (some 1) rest
  | '\x7b' =>
    match counts? r.flags rest with
    | some (least, most, rest) => repeated least most (skipBlanks r.flags rest)
    | none => none
  | '[' =>
    (bracket? r.flags (rest.length + 2) rest).map fun (s, depth, rest) =>
      (r.push (.term (.chars s) depth), rest)
  | '\\' =>
    (escape? r.flags rest).map fun (e, rest) => (r.push (.term (e.regex r.flags) 0), rest)
  | '.' => (dotSet? r.flags).map fun s => (r.push (.term (.chars s) 0), rest)
  | '^' =>
    let anchor : Anchor := if r.flags.multiLine then .lineStart r.flags.crlf else .textStart
    some (r.push (.term (.anchor anchor) 0), rest)
  | '$' =>
    let anchor : Anchor := if r.flags.multiLine then .lineEnd r.flags.crlf else .textEnd
    some (r.push (.term (.anchor anchor) 0), rest)
  | c => some (r.push (.term (.chars (literalSet r.flags c)) 0), rest)

/-- Reads the pieces of a pattern to its end; each takes a character at least. -/
def Reader.run? : Nat → Reader → List Char → Option Reader
  | 0, _, _ => none
  | fuel + 1, r, cs =>
    match skipBlanks r.flags cs with
    | [] => some r
    | c :: rest =>
      match r.step? c rest with
      | some (r, rest) => run? fuel r rest
      | none => none

/-- Reads a pattern. -/
def parse? (s : String) : Option Compiled :=
  let cs := s.toList
  let top : Frame := { capture := none, saved := {}, alternatives := [], items := [] }
  match Reader.run? (cs.length + 1) { flags := {}, groups := 1, names := [], top, outer := [] } cs with
  | some { groups, names, top, outer := [], .. } =>
    let (regex, depth) := top.body
    if depth ≤ nestLimit then some { regex, groups, names } else none
  | _ => none

end TableTypes.Pattern
