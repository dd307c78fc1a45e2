import TableTypes.Proofs.LineDiff.Patch

/-!
# Differences as text

The text of a difference is read back by the rules of unified differences: a header gives the place
and the length of a hunk on both sides, and each line below it starts with a space, a minus or a
plus sign. Because every step has such a sign before its line, a line of the two texts is never
taken for a header, whatever it holds.
-/

namespace TableTypes.LineDiff

open Text Unicode

/-! ## Reading hunks -/

/-- A number in decimal digits. -/
def readNumber? (cs : List Char) : Option ℕ :=
  if cs ≠ [] ∧ cs.all Char.isDigit then some (Nat.ofDigitChars 10 cs 0) else none

/-- How many lines come before a stretch of some length that names a line: its first line if it has
one, and otherwise the line before it. -/
def linesBefore? : ℕ → ℕ → Option ℕ
  | line, 0 => some line
  | 0, _ + 1 => none
  | line + 1, _ + 1 => some line

/-- The place of a stretch: how many lines come before it, and how many it has. -/
def readRange? (cs : List Char) : Option (ℕ × ℕ) := do
  let (line, count) ← cut? ',' cs
  let line ← readNumber? line
  let count ← readNumber? count
  let before ← linesBefore? line count
  return (before, count)

/-- The places on the old and on the new side that a header gives. -/
def readHeader? (line : List Char) : Option ((ℕ × ℕ) × (ℕ × ℕ)) :=
  match splitOn ' ' line with
  | [['@', '@'], '-' :: old, '+' :: new, ['@', '@']] => do
    let old ← readRange? old
    let new ← readRange? new
    return (old, new)
  | _ => none

/-- A step by the sign before its line. -/
def readStep? : List Char → Option (Edit String)
  | ' ' :: line => some (.keep (String.ofList line))
  | '-' :: line => some (.delete (String.ofList line))
  | '+' :: line => some (.insert (String.ofList line))
  | _ => none

/-- The hunk of a header and the steps below it, whose two sides must have the lengths given. -/
def hunkOf? (header : List Char) (steps : List (Edit String)) : Option Hunk := do
  let (old, new) ← readHeader? header
  if oldCount steps = old.2 ∧ newCount steps = new.2 then
    some { oldBefore := old.1, newBefore := new.1, edits := steps }
  else none

/-- The steps before the first header, and the hunks from there on. -/
def readLines? : List (List Char) → Option (List (Edit String) × List Hunk)
  | [] => some ([], [])
  | ('@' :: header) :: rest => do
    let (steps, hunks) ← readLines? rest
    let hunk ← hunkOf? ('@' :: header) steps
    return ([], hunk :: hunks)
  | line :: rest => do
    let (steps, hunks) ← readLines? rest
    let step ← readStep? line
    return (step :: steps, hunks)

/-- The hunks of a text in which every line is ended by a line feed. -/
def readHunks? (text : String) : Option (List Hunk) :=
  let pieces := splitOn '\n' text.toList
  match pieces.getLast?, readLines? pieces.dropLast with
  | some [], some ([], hunks) => some hunks
  | _, _ => none

/-! ## Headers -/

/-- A number is read back from its digits. -/
theorem readNumber?_toDigits (n : ℕ) : readNumber? (Nat.toDigits 10 n) = some n := by
  have hdigits : (Nat.toDigits 10 n).all Char.isDigit = true :=
    List.all_eq_true.mpr fun c hc => Nat.isDigit_of_mem_toDigits (by decide) (by decide) hc
  rw [readNumber?, if_pos ⟨Nat.toDigits_ne_nil, hdigits⟩, Nat.ofDigitChars_ten_toDigits]

/-- The number of a line that a place names. -/
def namedLine (before count : ℕ) : ℕ :=
  if count = 0 then before else before + 1

/-- The number of a line tells how many lines come before it. -/
theorem linesBefore?_namedLine (before count : ℕ) :
    linesBefore? (namedLine before count) count = some before := by
  cases count <;> rfl

/-- A range is written as the number of its line and its length in decimal digits. -/
theorem toList_rangeText (before count : ℕ) :
    (rangeText before count).toList =
      Nat.toDigits 10 (namedLine before count) ++ ',' :: Nat.toDigits 10 count := by
  unfold rangeText namedLine
  split
  next hcount => simp [hcount, ToString.toString, Nat.toList_repr, Nat.toDigits_of_lt_base]
  next => simp [ToString.toString, Nat.toList_repr]

/-- A place holds digits and a comma only. -/
theorem isDigit_or_comma_of_mem_rangeText {before count : ℕ} {c : Char}
    (hc : c ∈ (rangeText before count).toList) : c.isDigit = true ∨ c = ',' := by
  rw [toList_rangeText, List.mem_append, List.mem_cons] at hc
  rcases hc with hc | rfl | hc
  · exact .inl (Nat.isDigit_of_mem_toDigits (by decide) (by decide) hc)
  · exact .inr rfl
  · exact .inl (Nat.isDigit_of_mem_toDigits (by decide) (by decide) hc)

/-- A place is read back from its text. -/
theorem readRange?_rangeText (before count : ℕ) :
    readRange? (rangeText before count).toList = some (before, count) := by
  have hcomma : ',' ∉ Nat.toDigits 10 (namedLine before count) := fun hc => by
    simpa using Nat.isDigit_of_mem_toDigits (by decide) (by decide) hc
  simp [readRange?, toList_rangeText, cut?_append_cons hcomma, readNumber?_toDigits,
    linesBefore?_namedLine]

/-- The header of a hunk. -/
def Hunk.headerLine (h : Hunk) : List Char :=
  ['@', '@'] ++ ' ' :: (('-' :: (rangeText h.oldBefore (oldCount h.edits)).toList) ++ ' ' ::
    (('+' :: (rangeText h.newBefore (newCount h.edits)).toList) ++ ' ' :: ['@', '@']))

/-- The places of a hunk are read back from its header. -/
theorem readHeader?_headerLine (h : Hunk) :
    readHeader? h.headerLine =
      some ((h.oldBefore, oldCount h.edits), (h.newBefore, newCount h.edits)) := by
  have hrange : ∀ (sign : Char) (before count : ℕ), sign ≠ ' ' →
      ' ' ∉ sign :: (rangeText before count).toList := by
    intro sign before count hsign hmem
    rcases List.mem_cons.mp hmem with heq | hmem
    · exact hsign heq.symm
    · simpa using isDigit_or_comma_of_mem_rangeText hmem
  rw [readHeader?, Hunk.headerLine, splitOn_append_cons (by decide),
    splitOn_append_cons (hrange '-' _ _ (by decide)),
    splitOn_append_cons (hrange '+' _ _ (by decide)), splitOn_of_notMem (by decide)]
  simp [readRange?_rangeText]

/-- The header of a hunk is one line. -/
theorem newline_notMem_headerLine (h : Hunk) : '\n' ∉ h.headerLine := by
  have hrange : ∀ before count : ℕ, '\n' ∉ (rangeText before count).toList := fun _ _ hmem => by
    simpa using isDigit_or_comma_of_mem_rangeText hmem
  simp [Hunk.headerLine, hrange]

/-- A hunk is read back from its header and its steps. -/
theorem hunkOf?_headerLine (h : Hunk) : hunkOf? h.headerLine h.edits = some h := by
  simp [hunkOf?, readHeader?_headerLine]

/-! ## Lines -/

/-- The line that shows a step. -/
def Edit.shown : Edit String → List Char
  | keep line => ' ' :: line.toList
  | delete line => '-' :: line.toList
  | insert line => '+' :: line.toList

/-- The lines that show a hunk. -/
def Hunk.lines (h : Hunk) : List (List Char) :=
  h.headerLine :: h.edits.map Edit.shown

/-- The text of a hunk is its lines, each ended by a line feed. -/
theorem toList_text (h : Hunk) : h.text.toList = h.lines.flatMap (· ++ ['\n']) := by
  have hstep : ∀ e : Edit String, e.text.toList = e.shown ++ ['\n'] := by
    intro e
    cases e <;> simp [Edit.text, Edit.shown]
  simp [Hunk.text, Hunk.lines, Hunk.headerLine, String.toList_join, List.flatMap_map, hstep]

/-- Steps are read back from their lines, ahead of what follows. -/
theorem readLines?_shown (edits : List (Edit String)) {rest : List (List Char)}
    {steps : List (Edit String)} {hunks : List Hunk} (h : readLines? rest = some (steps, hunks)) :
    readLines? (edits.map Edit.shown ++ rest) = some (edits ++ steps, hunks) := by
  induction edits with
  | nil => exact h
  | cons e edits ih => cases e <;> simp [Edit.shown, readLines?, ih, readStep?]

/-- Hunks are read back from their lines. -/
theorem readLines?_lines (hunks : List Hunk) :
    readLines? (hunks.flatMap Hunk.lines) = some ([], hunks) := by
  induction hunks with
  | nil => rfl
  | cons h hunks ih =>
    have hsteps := readLines?_shown h.edits ih
    have hhunk := hunkOf?_headerLine h
    obtain ⟨rest, hrest⟩ : ∃ rest, h.headerLine = '@' :: rest := ⟨_, rfl⟩
    rw [List.append_nil] at hsteps
    rw [hrest] at hhunk
    simp [Hunk.lines, hrest, readLines?, hsteps, hhunk]

/-- Hunks are read back from their text if none of their lines holds a line feed. -/
theorem readHunks?_text {hunks : List Hunk}
    (h : ∀ hunk ∈ hunks, ∀ e ∈ hunk.edits, '\n' ∉ e.shown) :
    readHunks? (String.join (hunks.map Hunk.text)) = some hunks := by
  have hlines : ∀ line ∈ hunks.flatMap Hunk.lines, '\n' ∉ line := by
    intro line hline
    obtain ⟨hunk, hhunk, hline⟩ := List.mem_flatMap.mp hline
    rcases List.mem_cons.mp hline with rfl | hline
    · exact newline_notMem_headerLine hunk
    · obtain ⟨e, he, rfl⟩ := List.mem_map.mp hline
      exact h hunk hhunk e he
  have htext : (String.join (hunks.map Hunk.text)).toList =
      (hunks.flatMap Hunk.lines).flatMap (· ++ ['\n']) := by
    simp [String.toList_join, List.flatMap_map, List.flatMap_assoc, toList_text]
  simp [readHunks?, htext, splitOn_flatMap_append hlines, readLines?_lines]

/-- A kept line that looks like a header is a line all the same. -/
example :
    readHunks? "@@ -1,2 +1,2 @@\n @@ -1 +1 @@\n-b\n+c\n" =
      some [⟨0, 0, [.keep "@@ -1 +1 @@", .delete "b", .insert "c"]⟩] := by
  decide +kernel

/-! ## The difference of two texts -/

/-- No step of a script holds a line feed if neither of its sides does. -/
theorem newline_notMem_shown {edits : List (Edit String)}
    (hold : ∀ line ∈ oldLines edits, '\n' ∉ line.toList)
    (hnew : ∀ line ∈ newLines edits, '\n' ∉ line.toList) :
    ∀ e ∈ edits, '\n' ∉ e.shown := by
  intro e he
  cases e with
  | keep line =>
    have := hold line (List.mem_filterMap.mpr ⟨_, he, rfl⟩)
    simpa [Edit.shown] using this
  | delete line =>
    have := hold line (List.mem_filterMap.mpr ⟨_, he, rfl⟩)
    simpa [Edit.shown] using this
  | insert line =>
    have := hnew line (List.mem_filterMap.mpr ⟨_, he, rfl⟩)
    simpa [Edit.shown] using this

/-- The steps of a script's hunks are steps of the script. -/
theorem mem_of_mem_hunks {edits : List (Edit String)} {h : Hunk} (hh : h ∈ hunks edits) :
    ∀ e ∈ h.edits, e ∈ edits := by
  obtain ⟨range, -, rfl⟩ := List.mem_map.mp hh
  exact fun e he => List.mem_of_mem_drop (List.mem_of_mem_take he)

/-- The lines of a text hold no line feed. -/
theorem newline_notMem_of_mem_splitLines {s line : String} (h : line ∈ splitLines s) :
    '\n' ∉ line.toList := by
  obtain ⟨piece, hpiece, rfl⟩ := List.mem_map.mp h
  simpa using notMem_of_mem_splitOn hpiece

/-- A difference is given exactly if the two texts differ once trimmed. It can be read as hunks that
turn the lines of the old text into those of the new one and, applied backwards, the lines of the
new text into those of the old one. -/
theorem diff?_reads_as_patch (old new : String) :
    (diff? old new = none ↔ trimText old = trimText new) ∧
    ∀ text, diff? old new = some text →
      ∃ hunks, readHunks? text = some hunks ∧
        patch? hunks (splitLines (trimText old)) = some (splitLines (trimText new)) ∧
        patch? (hunks.map Hunk.flip) (splitLines (trimText new)) =
          some (splitLines (trimText old)) ∧
        "\n".intercalate (splitLines (trimText old)) = trimText old := by
  have hnone : diff? old new = none ↔ trimText old = trimText new := by
    simp [diff?]
  refine ⟨hnone, fun text htext => ?_⟩
  have hdiffer : trimText old ≠ trimText new := fun heq => by
    simp [hnone.mpr heq] at htext
  let edits := editScript (splitLines (trimText old)) (splitLines (trimText new))
  have hscript : KeepsLongest edits _ _ := keepsLongest_editScript _ _
  have hlines : ∀ h ∈ hunks edits, ∀ e ∈ h.edits, '\n' ∉ e.shown := by
    intro h hh e he
    refine newline_notMem_shown ?_ ?_ e (mem_of_mem_hunks hh e he)
    · rw [hscript.old_eq]
      exact fun line => newline_notMem_of_mem_splitLines
    · rw [hscript.new_eq]
      exact fun line => newline_notMem_of_mem_splitLines
  have hread := readHunks?_text hlines
  have hpatch := patch?_hunks edits
  have hflip := patch?_flip_hunks edits
  rw [hscript.old_eq, hscript.new_eq] at hpatch hflip
  simp only [diff?, if_neg hdiffer, Option.some.injEq] at htext
  subst htext
  exact ⟨hunks edits, hread, hpatch, hflip, intercalate_splitLines _⟩

end TableTypes.LineDiff
