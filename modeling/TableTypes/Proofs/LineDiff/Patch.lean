import TableTypes.LineDiff.Hunk
import TableTypes.Proofs.LineDiff.Script

/-!
# Hunks are a patch

Hunks are applied to the lines of one side by copying what lies between them and checking every line
that they keep or delete at the place where they say it is. The hunks of a script leave out kept
lines only, so applying them gives the other side, and applying them backwards gives the first side
again.
-/

namespace TableTypes.LineDiff

/-! ## Applying hunks -/

/-- The lines that are left when those that some steps keep or delete have been taken from the
beginning, or `none` if a line is not the one that is there. -/
def takeOld? : List (Edit String) → List String → Option (List String)
  | [], lines => some lines
  | e :: edits, lines =>
    match e.old?, lines with
    | none, lines => takeOld? edits lines
    | some _, [] => none
    | some a, b :: rest => if a = b then takeOld? edits rest else none

/-- Applies hunks to the lines that are left after `oldDone` lines, while `newDone` lines have been
given. Each hunk must start where it says on both sides. -/
def patchFrom? (oldDone newDone : ℕ) : List Hunk → List String → Option (List String)
  | [], lines => some lines
  | h :: hunks, lines =>
    let gap := h.oldBefore - oldDone
    if oldDone ≤ h.oldBefore ∧ gap ≤ lines.length ∧ newDone + gap = h.newBefore then do
      let rest ← takeOld? h.edits (lines.drop gap)
      let given ← patchFrom? (h.oldBefore + oldCount h.edits) (h.newBefore + newCount h.edits)
        hunks rest
      return lines.take gap ++ newLines h.edits ++ given
    else none

/-- Applies hunks to all lines of a text. -/
def patch? (hunks : List Hunk) (lines : List String) : Option (List String) :=
  patchFrom? 0 0 hunks lines

/-- A step from the new side to the old one. -/
def Edit.flip {α : Type} : Edit α → Edit α
  | keep a => keep a
  | delete a => insert a
  | insert a => delete a

/-- A hunk from the new side to the old one. -/
def Hunk.flip (h : Hunk) : Hunk where
  oldBefore := h.newBefore
  newBefore := h.oldBefore
  edits := h.edits.map Edit.flip

/-! ## The changes of a script -/

section Script

variable {α : Type}

/-- A position of a script at which there is a change. -/
def ChangeAt (edits : List (Edit α)) (i : ℕ) : Prop :=
  ∃ e, edits[i]? = some e ∧ e.isChange = true

/-- The positions listed are those of the changes. -/
theorem mem_changePositions {edits : List (Edit α)} {base j : ℕ} :
    j ∈ changePositions base edits ↔ ∃ i, j = base + i ∧ ChangeAt edits i := by
  induction edits generalizing base with
  | nil => simp [changePositions, ChangeAt]
  | cons e edits ih =>
    have hsplit : (∃ i, j = base + i ∧ ChangeAt (e :: edits) i) ↔
        (j = base ∧ e.isChange = true) ∨ ∃ i, j = base + 1 + i ∧ ChangeAt edits i := by
      constructor
      · rintro ⟨i, rfl, hchange⟩
        cases i with
        | zero => exact .inl (by simpa [ChangeAt] using hchange)
        | succ i => exact .inr ⟨i, by omega, by simpa [ChangeAt] using hchange⟩
      · rintro (⟨rfl, hchange⟩ | ⟨i, rfl, hchange⟩)
        · exact ⟨0, rfl, by simpa [ChangeAt] using hchange⟩
        · exact ⟨i + 1, by omega, by simpa [ChangeAt] using hchange⟩
    rw [hsplit, ← ih, changePositions]
    split
    next hchange => simp [hchange]
    next hchange => simp [hchange]

/-- The positions are listed in ascending order. -/
theorem pairwise_changePositions (edits : List (Edit α)) (base : ℕ) :
    (changePositions base edits).Pairwise (· < ·) := by
  induction edits generalizing base with
  | nil => exact .nil
  | cons e edits ih =>
    rw [changePositions]
    split
    · refine List.pairwise_cons.mpr ⟨fun j hj => ?_, ih _⟩
      obtain ⟨i, rfl, -⟩ := mem_changePositions.mp hj
      omega
    · exact ih _

/-- From position `p` on, every change of a script lies in one of some stretches, which follow one
another without overlapping. -/
inductive Covers (edits : List (Edit α)) : ℕ → List (ℕ × ℕ) → Prop where
  | done {p : ℕ} : (∀ i, p ≤ i → ¬ChangeAt edits i) → Covers edits p []
  | next {p start stop : ℕ} {ranges : List (ℕ × ℕ)} : p ≤ start → start ≤ stop →
      stop ≤ edits.length → (∀ i, p ≤ i → i < start → ¬ChangeAt edits i) →
      Covers edits stop ranges → Covers edits p ((start, stop) :: ranges)

/-- Merging keeps the changes covered: the growing stretch begins after `p`, no change lies between,
and each change behind it is still in the list. -/
theorem covers_mergeWindows {edits : List (Edit α)} {p start stop : ℕ} {positions : List ℕ}
    (hp : p ≤ start) (hstart : start ≤ stop) (hstop : stop ≤ edits.length)
    (hgap : ∀ i, p ≤ i → i < start → ¬ChangeAt edits i)
    (hsorted : positions.Pairwise (· < ·))
    (hpositions : ∀ i ∈ positions, i < edits.length ∧ stop ≤ i + contextLines + 1)
    (hrest : ∀ i, stop ≤ i → ChangeAt edits i → i ∈ positions) :
    Covers edits p (mergeWindows edits.length (start, stop) positions) := by
  induction positions generalizing p start stop with
  | nil =>
    refine .next hp hstart hstop hgap (.done fun i hi hchange => ?_)
    simpa using hrest i hi hchange
  | cons i positions ih =>
    obtain ⟨hlater, hsorted⟩ := List.pairwise_cons.mp hsorted
    obtain ⟨hi, hreach⟩ := hpositions i (by simp)
    have hnext : ∀ j ∈ positions, j < edits.length ∧
        min (i + contextLines + 1) edits.length ≤ j + contextLines + 1 := by
      intro j hj
      have := hlater j hj
      exact ⟨(hpositions j (by simp [hj])).1, by omega⟩
    have hbehind : ∀ j, min (i + contextLines + 1) edits.length ≤ j → stop ≤ j →
        ChangeAt edits j → j ∈ positions := by
      intro j hj hstopj hchange
      rcases List.mem_cons.mp (hrest j hstopj hchange) with rfl | hmem
      · omega
      · exact hmem
    dsimp only [mergeWindows]
    split
    next hmeets =>
      exact ih hp (by omega) (by omega) hgap hsorted hnext
        fun j hj hchange => hbehind j hj (by omega) hchange
    next happart =>
      refine .next hp hstart hstop hgap (ih (by omega) (by omega) (by omega) ?_ hsorted hnext ?_)
      · intro j hj hjstart hchange
        rcases List.mem_cons.mp (hrest j hj hchange) with rfl | hmem
        · omega
        · have := hlater j hmem
          omega
      · intro j hj hchange
        exact hbehind j hj (by omega) hchange

/-- The stretches around the changes of a script cover them all. -/
theorem covers_windows (edits : List (Edit α)) :
    Covers edits 0 (windows edits.length (changePositions 0 edits)) := by
  have hmem : ∀ i, ChangeAt edits i → i ∈ changePositions 0 edits :=
    fun i hchange => mem_changePositions.mpr ⟨i, by omega, hchange⟩
  have hlength : ∀ i ∈ changePositions 0 edits, i < edits.length := by
    intro i hi
    obtain ⟨j, rfl, e, he, -⟩ := mem_changePositions.mp hi
    have := (List.getElem?_eq_some_iff.mp he).1
    omega
  have hsorted := pairwise_changePositions edits 0
  cases hpositions : changePositions 0 edits with
  | nil =>
    refine .done fun i _ hchange => ?_
    simpa [hpositions] using hmem i hchange
  | cons i positions =>
    rw [hpositions] at hmem hlength hsorted
    obtain ⟨hlater, hsorted⟩ := List.pairwise_cons.mp hsorted
    have hi := hlength i (by simp)
    refine covers_mergeWindows (by omega) (by omega) (by omega) ?_ hsorted ?_ ?_
    · intro j _ hj hchange
      rcases List.mem_cons.mp (hmem j hchange) with rfl | hj'
      · omega
      · have := hlater j hj'
        omega
    · intro j hj
      have := hlater j hj
      exact ⟨hlength j (by simp [hj]), by omega⟩
    · intro j hj hchange
      rcases List.mem_cons.mp (hmem j hchange) with rfl | hj'
      · omega
      · exact hj'

/-- Between two positions without a change, both sides have the same lines. -/
theorem newLines_eq_oldLines_of_quiet {edits : List (Edit α)} {p stop : ℕ}
    (hquiet : ∀ i, p ≤ i → i < stop → ¬ChangeAt edits i) :
    newLines ((edits.drop p).take (stop - p)) = oldLines ((edits.drop p).take (stop - p)) := by
  have hkept : ∀ e ∈ (edits.drop p).take (stop - p), e.new? = e.old? := by
    intro e he
    obtain ⟨i, hi, rfl⟩ := List.mem_iff_getElem.mp he
    simp only [List.length_take, List.length_drop] at hi
    have hunchanged := hquiet (p + i) (by omega) (by omega)
    have hget : edits[p + i]? = some edits[p + i] := List.getElem?_eq_getElem (by omega)
    simp only [List.getElem_take, List.getElem_drop]
    cases hedit : edits[p + i] with
    | keep a => rfl
    | delete a => exact absurd ⟨_, hget, by simp [hedit, Edit.isChange]⟩ hunchanged
    | insert a => exact absurd ⟨_, hget, by simp [hedit, Edit.isChange]⟩ hunchanged
  exact List.filterMap_congr hkept

end Script

/-! ## Applying the hunks of a script -/

section Apply

variable {α : Type}

/-- The old lines of two scripts are counted together. -/
@[simp] theorem oldCount_append (edits edits' : List (Edit α)) :
    oldCount (edits ++ edits') = oldCount edits + oldCount edits' := by
  simp [oldCount]

/-- The new lines of two scripts are counted together. -/
@[simp] theorem newCount_append (edits edits' : List (Edit α)) :
    newCount (edits ++ edits') = newCount edits + newCount edits' := by
  simp [newCount]

/-- A script has as many old lines as are counted. -/
theorem length_oldLines (edits : List (Edit α)) : (oldLines edits).length = oldCount edits :=
  rfl

/-- The lines of a script's old side can be taken from it. -/
@[simp] theorem takeOld?_oldLines (edits : List (Edit String)) (rest : List String) :
    takeOld? edits (oldLines edits ++ rest) = some rest := by
  induction edits with
  | nil => simp [takeOld?]
  | cons e edits ih => cases e <;> simp [takeOld?, Edit.old?, ih]

/-- A hunk that starts where the script says copies the kept lines before it, gives its own new
side, and leaves what comes after it. -/
theorem patchFrom?_cons (before quiet steps after : List (Edit String)) (hunks : List Hunk)
    (hquiet : newLines quiet = oldLines quiet) :
    patchFrom? (oldCount before) (newCount before)
        (⟨oldCount (before ++ quiet), newCount (before ++ quiet), steps⟩ :: hunks)
        (oldLines (quiet ++ (steps ++ after))) =
      (patchFrom? (oldCount (before ++ quiet ++ steps)) (newCount (before ++ quiet ++ steps)) hunks
        (oldLines after)).map (newLines (quiet ++ steps) ++ ·) := by
  have hcount : newCount quiet = oldCount quiet := congrArg List.length hquiet
  have hgap : oldCount before + oldCount quiet - oldCount before = (oldLines quiet).length := by
    rw [length_oldLines]
    omega
  simp only [patchFrom?, oldCount_append, newCount_append, (readings_append _ _).1, hgap,
    List.drop_left, List.take_left, takeOld?_oldLines]
  rw [if_pos ⟨by omega, by simp, by rw [length_oldLines, hcount]⟩]
  cases hrest : patchFrom? (oldCount before + oldCount quiet + oldCount steps)
      (newCount before + newCount quiet + newCount steps) hunks (oldLines after) with
  | none => simp [hrest]
  | some given => simp [hrest, hquiet]

/-- The hunk of a stretch of a script. -/
def hunkAt (edits : List (Edit String)) (range : ℕ × ℕ) : Hunk where
  oldBefore := oldCount (edits.take range.1)
  newBefore := newCount (edits.take range.1)
  edits := (edits.drop range.1).take (range.2 - range.1)

/-- What lies before a position and what follows it up to a later one lie before the later one. -/
theorem take_append_slice {p q : ℕ} (hpq : p ≤ q) (edits : List α) :
    edits.take p ++ (edits.drop p).take (q - p) = edits.take q := by
  rw [← List.take_add, Nat.add_sub_cancel' hpq]

/-- What follows a position up to a later one, and what follows that, follows the first one. -/
theorem slice_append_drop {p q : ℕ} (hpq : p ≤ q) (edits : List α) :
    (edits.drop p).take (q - p) ++ edits.drop q = edits.drop p := by
  have hdrop : edits.drop q = (edits.drop p).drop (q - p) := by
    rw [List.drop_drop, Nat.add_sub_cancel' hpq]
  rw [hdrop, List.take_append_drop]

/-- The hunks of stretches that cover all changes from a position on turn the old lines from there
on into the new ones. -/
theorem patchFrom?_of_covers {edits : List (Edit String)} {p : ℕ} {ranges : List (ℕ × ℕ)}
    (h : Covers edits p ranges) :
    patchFrom? (oldCount (edits.take p)) (newCount (edits.take p)) (ranges.map (hunkAt edits))
        (oldLines (edits.drop p)) =
      some (newLines (edits.drop p)) := by
  induction h with
  | @done p hquiet =>
    have hrest : newLines ((edits.drop p).take (edits.length - p)) =
        oldLines ((edits.drop p).take (edits.length - p)) :=
      newLines_eq_oldLines_of_quiet fun i hi _ => hquiet i hi
    rw [List.take_of_length_le (by simp)] at hrest
    simp [patchFrom?, hrest]
  | @next p start stop ranges hp hstart hstop hquiet _ ih =>
    have hcons := patchFrom?_cons (edits.take p) ((edits.drop p).take (start - p))
      ((edits.drop start).take (stop - start)) (edits.drop stop) (ranges.map (hunkAt edits))
      (newLines_eq_oldLines_of_quiet hquiet)
    rw [take_append_slice hp, take_append_slice hstart, slice_append_drop hstart,
      slice_append_drop hp, ih, Option.map_some, ← (readings_append _ _).2.1, List.append_assoc,
      slice_append_drop hstart, slice_append_drop hp] at hcons
    exact hcons

/-- The hunks of a script turn its old side into its new side. -/
theorem patch?_hunks (edits : List (Edit String)) :
    patch? (hunks edits) (oldLines edits) = some (newLines edits) :=
  patchFrom?_of_covers (covers_windows edits)

end Apply

/-! ## Applying the hunks backwards -/

section Flip

variable {α : Type}

/-- Read backwards, a change is a change. -/
@[simp] theorem isChange_flip (e : Edit α) : e.flip.isChange = e.isChange := by
  cases e <;> rfl

/-- A script read backwards has its two sides exchanged. -/
@[simp] theorem sides_map_flip (edits : List (Edit α)) :
    oldLines (edits.map Edit.flip) = newLines edits ∧
      newLines (edits.map Edit.flip) = oldLines edits := by
  induction edits with
  | nil => simp
  | cons e edits ih => cases e <;> simp [Edit.flip, ih]

/-- Read backwards, the old lines are the new ones. -/
@[simp] theorem counts_map_flip (edits : List (Edit α)) :
    oldCount (edits.map Edit.flip) = newCount edits ∧
      newCount (edits.map Edit.flip) = oldCount edits :=
  ⟨congrArg List.length (sides_map_flip edits).1, congrArg List.length (sides_map_flip edits).2⟩

/-- Read backwards, the changes stand at their positions. -/
@[simp] theorem changePositions_map_flip (edits : List (Edit α)) (base : ℕ) :
    changePositions base (edits.map Edit.flip) = changePositions base edits := by
  induction edits generalizing base with
  | nil => rfl
  | cons e edits ih => simp [changePositions, ih]

/-- The hunks of a script read backwards are its hunks read backwards. -/
theorem hunks_map_flip (edits : List (Edit String)) :
    hunks (edits.map Edit.flip) = (hunks edits).map Hunk.flip := by
  simp [hunks, Hunk.flip, ← List.map_take, ← List.map_drop]

/-- The hunks of a script, applied backwards, turn its new side into its old side. -/
theorem patch?_flip_hunks (edits : List (Edit String)) :
    patch? ((hunks edits).map Hunk.flip) (newLines edits) = some (oldLines edits) := by
  have hpatch := patch?_hunks (edits.map Edit.flip)
  rw [hunks_map_flip, (sides_map_flip edits).1, (sides_map_flip edits).2] at hpatch
  exact hpatch

end Flip

end TableTypes.LineDiff
