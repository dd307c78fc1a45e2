import TableTypes.Pattern.Syntax

/-!
# Matching

A pattern is compiled to a program of nodes, and a match is sought by following all its threads side
by side, the preferred one first. Of the matches that begin at the first possible place, the one of
the most preferred thread wins; its groups are where that thread last entered and left them.
-/

namespace TableTypes.Pattern

/-- A node of a program. -/
inductive Node where
  | accept
  | consume (set : CharSet) (next : Nat)
  | check (a : Anchor) (next : Nat)
  /-- Two ways to go on, the first one preferred. -/
  | fork (first second : Nat)
  /-- Notes the place in a slot. -/
  | save (slot next : Nat)

/-- A program: its nodes by number. -/
abbrev Program := Array Node

/-- Appends a node and gives its number. -/
def addNode (n : Node) (p : Program) : Nat × Program := (p.size, p.push n)

/-- A fork that prefers its first way, or its second if it is lazy. -/
def Node.choice (lazy : Bool) (inner outer : Nat) : Node :=
  if lazy then .fork outer inner else .fork inner outer

/-- Compiles something several times in a row. -/
def compileTimes (once : Nat → Program → Nat × Program) : Nat → Nat → Program → Nat × Program
  | 0, next, p => (next, p)
  | n + 1, next, p =>
    let (next, p) := compileTimes once n next p
    once next p

/-- Compiles something up to `n` times in a row, each time with the choice to stop. -/
def compileUpTo (lazy : Bool) (once : Nat → Program → Nat × Program) (stop : Nat) :
    Nat → Program → Nat × Program
  | 0, p => (stop, p)
  | n + 1, p =>
    let (next, p) := compileUpTo lazy once stop n p
    let (inner, p) := once next p
    addNode (.choice lazy inner stop) p

/-- Adds the nodes of an expression in front of the node `next` and gives the first of them. -/
def Regex.compile : Regex → Nat → Program → Nat × Program
  | .empty, next, p => (next, p)
  | .chars s, next, p => addNode (.consume s next) p
  | .anchor a, next, p => addNode (.check a next) p
  | .seq r s, next, p =>
    let (next, p) := s.compile next p
    r.compile next p
  | .alt r s, next, p =>
    let (first, p) := r.compile next p
    let (second, p) := s.compile next p
    addNode (.fork first second) p
  | .capture i r, next, p =>
    let (next, p) := addNode (.save (2 * i + 1) next) p
    let (next, p) := r.compile next p
    addNode (.save (2 * i) next) p
  | .repeat r least most lazy, next, p =>
    match most with
    | some most =>
      let (next, p) := compileUpTo lazy r.compile next (most - least) p
      compileTimes r.compile least next p
    | none =>
      let (turn, p) := addNode .accept p
      let (inner, p) := r.compile turn p
      let p := p.setIfInBounds turn (.choice lazy inner next)
      if least = 0 then
        if r.nullable then addNode (.choice lazy inner next) p else (turn, p)
      else compileTimes r.compile (least - 1) inner p

/-- The places noted by a thread. -/
abbrev Slots := List (Option Nat)

/-- A thread: the node it stands at and the places it has noted. -/
structure Thread where
  node : Nat
  slots : Slots

/-- Whether a character belongs to words, of the whole of Unicode or of ASCII alone. -/
def isWordChar (unicode : Bool) (c : Option Char) : Bool :=
  c.any (if unicode then CharSet.word else CharSet.asciiWord).contains

/-- Whether an anchor holds between two characters; `none` stands for the ends of the text. No line
begins or ends between a carriage return and a line feed that end one together. -/
def Anchor.holds (before after : Option Char) : Anchor → Bool
  | .textStart => before.isNone
  | .textEnd => after.isNone
  | .lineStart crlf =>
    before.isNone || before = some '\n' || (crlf && before = some '\r' && after ≠ some '\n')
  | .lineEnd crlf =>
    after.isNone || (after = some '\n' && !(crlf && before = some '\r')) ||
      (crlf && after = some '\r')
  | .wordBoundary unicode => isWordChar unicode before != isWordChar unicode after
  | .noWordBoundary unicode => isWordChar unicode before == isWordChar unicode after
  | .wordStart unicode => !isWordChar unicode before && isWordChar unicode after
  | .wordEnd unicode => isWordChar unicode before && !isWordChar unicode after
  | .wordStartHalf unicode => !isWordChar unicode before
  | .wordEndHalf unicode => !isWordChar unicode after

/-- Where a search stands: the position and the characters on its two sides. -/
structure Place where
  position : Nat
  before : Option Char
  after : Option Char

/-- Follows threads until they consume or accept. `todo` holds the threads to follow, the preferred
one first, `seen` the nodes already visited, and `done` the finished threads in reverse. Each turn
visits a node or drops a thread. -/
def follow (p : Program) (here : Place) : Nat → List Thread → List Nat → List Thread →
    List Nat × List Thread
  | 0, _, seen, done => (seen, done)
  | _ + 1, [], seen, done => (seen, done)
  | fuel + 1, t :: todo, seen, done =>
    if seen.contains t.node then follow p here fuel todo seen done
    else
      let seen := t.node :: seen
      match p[t.node]? with
      | none => follow p here fuel todo seen done
      | some .accept => follow p here fuel todo seen (t :: done)
      | some (.consume _ _) => follow p here fuel todo seen (t :: done)
      | some (.check a next) =>
        if a.holds here.before here.after then
          follow p here fuel ({ t with node := next } :: todo) seen done
        else follow p here fuel todo seen done
      | some (.fork first second) =>
        follow p here fuel ({ t with node := first } :: { t with node := second } :: todo) seen done
      | some (.save slot next) =>
        follow p here fuel ({ node := next, slots := t.slots.set slot (some here.position) } :: todo)
          seen done

/-- The threads that wait at a place, given those that arrive there in order of preference. -/
def settle (p : Program) (here : Place) (arriving : List Thread) : List Thread :=
  (follow p here (2 * p.size + arriving.length + 2) arriving [] []).2.reverse

/-- Moves threads over a character. A thread that accepts ends the list: those after it are less
preferred. The match found, if any, comes with the threads that are preferred to it. -/
def advance (p : Program) (c : Option Char) : List Thread → List Thread × Option Slots
  | [] => ([], none)
  | t :: rest =>
    match p[t.node]? with
    | some .accept => ([], some t.slots)
    | some (.consume s next) =>
      let (moved, found) := advance p c rest
      if c.any s.contains then ({ t with node := next } :: moved, found) else (moved, found)
    | _ => advance p c rest

/-- Runs threads over the remaining characters. `best` is the match found so far; as long as there is
none, a new thread starts at each place, less preferred than the others. -/
def search (p : Program) (start : Thread) (arriving : List Thread) (best : Option Slots)
    (position : Nat) (before : Option Char) : List Char → Option Slots
  | [] =>
    let here : Place := { position, before, after := none }
    let arriving := if best.isNone then arriving ++ [start] else arriving
    (advance p none (settle p here arriving)).2.or best
  | c :: rest =>
    let here : Place := { position, before, after := some c }
    let arriving := if best.isNone then arriving ++ [start] else arriving
    let (moved, found) := advance p (some c) (settle p here arriving)
    let best := found.or best
    if moved.isEmpty && best.isSome then best
    else search p start moved best (position + 1) (some c) rest

/-- The places of a match: two for each group, where it begins and where it ends. -/
def Compiled.match? (c : Compiled) (text : List Char) : Option Slots :=
  let (final, p) := addNode .accept #[]
  let (first, p) := (Regex.capture 0 c.regex).compile final p
  search p { node := first, slots := List.replicate (2 * c.groups) none } [] none 0 none text

end TableTypes.Pattern
