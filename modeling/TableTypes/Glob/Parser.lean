import TableTypes.Glob.Basic

/-!
# Reading globs

The reader of globs. The first fault from left to right is reported, and a brace that stays open
comes last.
-/

namespace TableTypes.Glob

/-- The branches of an open choice: the present one and those before it, all in reverse. -/
structure Branches where
  present : List Token
  finished : List (List Token)

/-- The state of the reader: the branches of the innermost open choice or of the glob itself, those
around it, and the character read last. -/
structure Reader where
  top : Branches
  outer : List Branches
  previous : Option Char

/-- Adds a token to the present branch. -/
def Reader.push (r : Reader) (t : Token) : Reader :=
  { r with top := { r.top with present := t :: r.top.present } }

/-- Whether a choice is open. -/
def Reader.inChoice (r : Reader) : Bool := !r.outer.isEmpty

/-- Opens a choice. -/
def Reader.openChoice (r : Reader) : Reader :=
  { r with top := { present := [], finished := [] }, outer := r.top :: r.outer }

/-- The branches in the order in which they were read. -/
def Branches.toList (b : Branches) : List (List Token) :=
  (b.present.reverse :: b.finished).reverse

/-- Closes the innermost choice. -/
def Reader.closeChoice (r : Reader) : Except Cause Reader :=
  match r.outer with
  | [] => .error .unopenedChoice
  | around :: outer => .ok ({ r with top := around, outer }.push (.choice r.top.toList))

/-- A comma begins the next branch of a choice and stands for itself elsewhere. -/
def Reader.comma (r : Reader) : Reader :=
  if r.inChoice then
    { r with top := { present := [], finished := r.top.present.reverse :: r.top.finished } }
  else r.push (.literal ',')

/-- Replaces the last token by one for directories, unless it is one already. -/
def Reader.mergeDirs (r : Reader) (t : Token) : Reader :=
  match r.top.present with
  | .leadingDirs :: _ => r
  | .trailingDirs :: _ => r
  | _ :: rest => { r with top := { r.top with present := t :: rest } }
  | [] => r.push t

/-- Reads what follows two stars. They stand for directories where a whole component of a path
would stand, and for two single stars elsewhere. -/
def Reader.twoStars (r : Reader) (rest : List Char) : Reader × List Char :=
  let after := fun (r : Reader) (c : Char) => { r with previous := some c }
  let plain := (after ((r.push .anyMany).push .anyMany) '*', rest)
  if r.top.present.isEmpty then
    match rest with
    | [] => (after (r.push .leadingDirs) '*', [])
    | '/' :: rest => (after (r.push .leadingDirs) '/', rest)
    | _ => plain
  else if r.previous ≠ some '/'
      && (!r.inChoice || (r.previous ≠ some ',' && r.previous ≠ some '\x7b')) then plain
  else
    match rest with
    | [] => (after (r.mergeDirs .trailingDirs) '*', [])
    | '/' :: rest => (after (r.mergeDirs .innerDirs) '/', rest)
    | ',' :: _ => if r.inChoice then (after (r.mergeDirs .trailingDirs) '*', rest) else plain
    | '\x7d' :: _ => if r.inChoice then (after (r.mergeDirs .trailingDirs) '*', rest) else plain
    | _ => plain

/-- Reads the rest of a bracket expression. `ranges` holds those read in reverse, and `open?` says
whether a hyphen waits for the end of its range. -/
def classBody (ranges : List (Char × Char)) (first open? : Bool) :
    List Char → Except Cause (List (Char × Char) × List Char)
  | [] => .error .unclosedClass
  | c :: rest =>
    if c = ']' && !first then
      .ok ((if open? then ('-', '-') :: ranges else ranges).reverse, rest)
    else if c = '-' && !first && !open? then classBody ranges false true rest
    else if open? then
      match ranges with
      | (a, _) :: ranges =>
        if a ≤ c then classBody ((a, c) :: ranges) false false rest
        else .error (.backwardRange a c)
      | [] => classBody [(c, c)] false false rest
    else classBody ((c, c) :: ranges) false false rest

/-- Reads a bracket expression after its opening bracket. -/
def readClass (cs : List Char) : Except Cause (Token × List Char) :=
  let (negated, cs) :=
    match cs with
    | '!' :: rest => (true, rest)
    | '^' :: rest => (true, rest)
    | cs => (false, cs)
  (classBody [] true false cs).map fun (ranges, rest) => (.charClass negated ranges, rest)

/-- Reads one piece of a glob. -/
def Reader.step (r : Reader) (c : Char) (rest : List Char) : Except Cause (Reader × List Char) :=
  let after := fun (r : Reader) (c : Char) => { r with previous := some c }
  match c with
  | '?' => .ok (after (r.push .anyOne) c, rest)
  | '*' =>
    match rest with
    | '*' :: rest => .ok (r.twoStars rest)
    | rest => .ok (after (r.push .anyMany) c, rest)
  | '[' => (readClass rest).map fun (t, rest) => (after (r.push t) ']', rest)
  | '\x7b' => .ok (after r.openChoice c, rest)
  | '\x7d' => r.closeChoice.map fun r => (after r c, rest)
  | ',' => .ok (after r.comma c, rest)
  | '\\' =>
    match rest with
    | [] => .error .danglingEscape
    | c :: rest => .ok (after (r.push (.literal c)) c, rest)
  | c => .ok (after (r.push (.literal c)) c, rest)

/-- Reads the pieces of a glob to its end; each takes a character at least. -/
def Reader.run : Nat → Reader → List Char → Except Cause (List Token)
  | 0, _, _ => .ok []
  | _ + 1, r, [] => if r.inChoice then .error .unclosedChoice else .ok r.top.present.reverse
  | fuel + 1, r, c :: rest =>
    match r.step c rest with
    | .ok (r, rest) => run fuel r rest
    | .error e => .error e

/-- Reads a glob. -/
def parse (pattern : String) : Except Error (List Token) :=
  let cs := pattern.toList
  let start : Reader := { top := { present := [], finished := [] }, outer := [], previous := none }
  match start.run (cs.length + 1) cs with
  | .ok tokens => .ok tokens
  | .error cause => .error { pattern, cause }

end TableTypes.Glob
