import TableTypes.LineDiff.Edit
import TableTypes.Text.Lines
import TableTypes.Unicode.Blank

/-!
# Hunks

A difference is shown as hunks: stretches of an edit script that hold changes, each with up to three
kept lines around it and a header that says where it lies on both sides.
-/

namespace TableTypes.LineDiff

/-- How many kept lines are shown on each side of a change. -/
def contextLines : Nat := 3

/-- A stretch of an edit script, and how many old and new lines come before it. -/
structure Hunk where
  oldBefore : Nat
  newBefore : Nat
  edits : List (Edit String)
  deriving DecidableEq, Repr

/-- The positions of the changes in an edit script whose first step has position `i`. -/
def changePositions {α : Type} (i : Nat) : List (Edit α) → List Nat
  | [] => []
  | e :: es => if e.isChange then i :: changePositions (i + 1) es else changePositions (i + 1) es

/-- The stretches around the given positions of a script of length `n`; stretches that meet or
overlap become one. `range` is the stretch still growing. -/
def mergeWindows (n : Nat) (range : Nat × Nat) : List Nat → List (Nat × Nat)
  | [] => [range]
  | i :: rest =>
    let start := i - contextLines
    let stop := min (i + contextLines + 1) n
    if start ≤ range.2 then mergeWindows n (range.1, stop) rest
    else range :: mergeWindows n (start, stop) rest

/-- The stretches of a script of length `n` around the changes at the given positions. -/
def windows (n : Nat) : List Nat → List (Nat × Nat)
  | [] => []
  | i :: rest => mergeWindows n (i - contextLines, min (i + contextLines + 1) n) rest

/-- How many lines a script consumes on the old side. -/
def oldCount {α : Type} (edits : List (Edit α)) : Nat :=
  (edits.filterMap Edit.old?).length

/-- How many lines a script yields on the new side. -/
def newCount {α : Type} (edits : List (Edit α)) : Nat :=
  (edits.filterMap Edit.new?).length

/-- The hunks of an edit script, in order. -/
def hunks (edits : List (Edit String)) : List Hunk :=
  (windows edits.length (changePositions 0 edits)).map fun (start, stop) =>
    { oldBefore := oldCount (edits.take start)
      newBefore := newCount (edits.take start)
      edits := (edits.drop start).take (stop - start) }

/-- The place of a stretch in a header: its first line, counted from one, and its length. An empty
stretch names the line before it. -/
def rangeText (before count : Nat) : String :=
  if count = 0 then s!"{before},0" else s!"{before + 1},{count}"

/-- A step as a line of a hunk: a space, a minus or a plus sign, and the line. -/
def Edit.text : Edit String → String
  | .keep line => " " ++ line ++ "\n"
  | .delete line => "-" ++ line ++ "\n"
  | .insert line => "+" ++ line ++ "\n"

/-- A hunk as text, its header first. -/
def Hunk.text (h : Hunk) : String :=
  "@@ -" ++ rangeText h.oldBefore (oldCount h.edits)
    ++ " +" ++ rangeText h.newBefore (newCount h.edits) ++ " @@\n"
    ++ String.join (h.edits.map Edit.text)

/-- The differences between two texts as hunks, or `none` if they agree once blanks around them are
dropped. -/
def diff? (old new : String) : Option String :=
  let old := Unicode.trimText old
  let new := Unicode.trimText new
  if old = new then none
  else some (String.join ((hunks (editScript (Text.splitLines old) (Text.splitLines new))).map
    Hunk.text))

end TableTypes.LineDiff
