/-!
# Shortest edit scripts

An edit script turns one list of lines into another by keeping, deleting and inserting lines. The
script built here keeps as many lines as a longest common subsequence holds: a common beginning and
end are kept as they are, and what lies between is cut in half at a point where the two halves have
the longest common subsequences.
-/

namespace TableTypes.LineDiff

/-- One step of an edit script. -/
inductive Edit (α : Type) where
  | keep (line : α)
  | delete (line : α)
  | insert (line : α)
  deriving DecidableEq, Repr

namespace Edit

variable {α : Type}

/-- Whether a step deletes or inserts. -/
def isChange : Edit α → Bool
  | keep _ => false
  | delete _ => true
  | insert _ => true

/-- The line that a step consumes on the old side. -/
def old? : Edit α → Option α
  | keep a => some a
  | delete a => some a
  | insert _ => none

/-- The line that a step yields on the new side. -/
def new? : Edit α → Option α
  | keep a => some a
  | delete _ => none
  | insert a => some a

end Edit

variable {α : Type} [DecidableEq α]

/-- One row of the table of common subsequence lengths from the row above it. `diagonal` and `left`
are the entries above-left and left of the first entry computed. -/
def nextRow (a : α) (diagonal left : Nat) : List α → List Nat → List Nat
  | b :: bs, above :: row =>
    let here := if a = b then diagonal + 1 else max above left
    here :: nextRow a above here bs row
  | _, _ => []

/-- The lengths of the longest common subsequences of `old` and each of the beginnings of `new`,
from the empty one to `new` itself. -/
def lcsRow (old new : List α) : List Nat :=
  old.foldl (fun row a => 0 :: nextRow a (row.headD 0) 0 new row.tail)
    (List.replicate (new.length + 1) 0)

/-- The lengths of the longest common subsequences of `old` and each of the ends of `new`, from the
empty one to `new` itself. -/
def lcsRowBack (old new : List α) : List Nat :=
  lcsRow old.reverse new.reverse

/-- The position and value of the first greatest entry, given the best one so far. -/
def firstMax (best : Nat × Nat) : Nat → List Nat → Nat × Nat
  | _, [] => best
  | i, n :: ns => firstMax (if best.2 < n then (i, n) else best) (i + 1) ns

/-- The first point of `new` at which the common subsequences of the two halves of the old lines
with the parts before and after it are longest together. -/
def splitPoint (front back new : List α) : Nat :=
  match List.zipWith (· + ·) (lcsRow front new) (lcsRowBack back new).reverse with
  | [] => 0
  | n :: ns => (firstMax (0, n) 1 ns).1

/-- Keeps the first occurrence of `line` among the new lines and inserts the others. -/
def matchOne (line : α) : List α → Option (List (Edit α))
  | [] => none
  | b :: bs =>
    if b = line then some (.keep line :: bs.map .insert)
    else (matchOne line bs).map (.insert b :: ·)

/-- The script between the common beginning and the common end. -/
def splitChanges (old new : List α) : List (Edit α) :=
  match old, new with
  | [], new => new.map .insert
  | old, [] => old.map .delete
  | [line], new => (matchOne line new).getD (.delete line :: new.map .insert)
  | a :: b :: rest, new =>
    let mid := (rest.length + 2) / 2
    let front := (a :: b :: rest).take mid
    let back := (a :: b :: rest).drop mid
    let point := splitPoint front back new
    splitChanges front (new.take point) ++ splitChanges back (new.drop point)
termination_by old.length
decreasing_by
  · simp only [List.length_take, List.length_cons]; omega
  · simp only [List.length_drop, List.length_cons]; omega

/-- Within each run of changes, the deletions first and then the insertions. `dels` and `inss` hold
those of the present run in reverse. -/
def orderFrom (dels inss : List (Edit α)) : List (Edit α) → List (Edit α)
  | [] => dels.reverse ++ inss.reverse
  | .keep a :: rest => dels.reverse ++ inss.reverse ++ .keep a :: orderFrom [] [] rest
  | .delete a :: rest => orderFrom (.delete a :: dels) inss rest
  | .insert a :: rest => orderFrom dels (.insert a :: inss) rest

/-- Within each run of changes, the deletions first and then the insertions. -/
def orderChanges (edits : List (Edit α)) : List (Edit α) :=
  orderFrom [] [] edits

/-- How many lines two lists have in common at their beginnings. -/
def commonLength : List α → List α → Nat
  | a :: as, b :: bs => if a = b then commonLength as bs + 1 else 0
  | _, _ => 0

/-- A shortest edit script from `old` to `new`. -/
def editScript (old new : List α) : List (Edit α) :=
  let start := commonLength old new
  let oldRest := old.drop start
  let newRest := new.drop start
  let stop := commonLength oldRest.reverse newRest.reverse
  orderChanges
    ((old.take start).map .keep
      ++ splitChanges (oldRest.take (oldRest.length - stop)) (newRest.take (newRest.length - stop))
      ++ (oldRest.drop (oldRest.length - stop)).map .keep)

end TableTypes.LineDiff
