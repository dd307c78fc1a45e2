import Mathlib.Data.List.Basic
import TableTypes.Proofs.LineDiff.Subsequence

/-!
# Edit scripts are shortest

A script is read in three ways: the lines it takes from the old side, the lines it gives on the new
side, and the lines it keeps. The script that is built has the two sides as its readings and keeps a
longest common subsequence of them, so no other script between them changes fewer lines.
-/

namespace TableTypes.LineDiff

open scoped List

variable {α : Type}

/-- The old side of a script: the lines that it keeps and deletes. -/
def oldLines (edits : List (Edit α)) : List α :=
  edits.filterMap Edit.old?

/-- The new side of a script: the lines that it keeps and inserts. -/
def newLines (edits : List (Edit α)) : List α :=
  edits.filterMap Edit.new?

/-- The line that a step keeps. -/
def Edit.kept? : Edit α → Option α
  | keep a => some a
  | delete _ => none
  | insert _ => none

/-- The lines that a script keeps. -/
def keptLines (edits : List (Edit α)) : List α :=
  edits.filterMap Edit.kept?

/-- How many lines a script deletes and inserts. -/
def changeCount (edits : List (Edit α)) : ℕ :=
  edits.countP Edit.isChange

/-! ## The readings of a script -/

/-- The empty script has no lines. -/
@[simp] theorem readings_nil :
    oldLines ([] : List (Edit α)) = [] ∧ newLines ([] : List (Edit α)) = [] ∧
      keptLines ([] : List (Edit α)) = [] :=
  ⟨rfl, rfl, rfl⟩

/-- A kept line is old and new. -/
@[simp] theorem readings_keep_cons (a : α) (edits : List (Edit α)) :
    oldLines (.keep a :: edits) = a :: oldLines edits ∧
      newLines (.keep a :: edits) = a :: newLines edits ∧
      keptLines (.keep a :: edits) = a :: keptLines edits :=
  ⟨rfl, rfl, rfl⟩

/-- A deleted line is old only. -/
@[simp] theorem readings_delete_cons (a : α) (edits : List (Edit α)) :
    oldLines (.delete a :: edits) = a :: oldLines edits ∧
      newLines (.delete a :: edits) = newLines edits ∧
      keptLines (.delete a :: edits) = keptLines edits :=
  ⟨rfl, rfl, rfl⟩

/-- An inserted line is new only. -/
@[simp] theorem readings_insert_cons (a : α) (edits : List (Edit α)) :
    oldLines (.insert a :: edits) = oldLines edits ∧
      newLines (.insert a :: edits) = a :: newLines edits ∧
      keptLines (.insert a :: edits) = keptLines edits :=
  ⟨rfl, rfl, rfl⟩

/-- The lines of two scripts stand one behind the other. -/
@[simp] theorem readings_append (edits edits' : List (Edit α)) :
    oldLines (edits ++ edits') = oldLines edits ++ oldLines edits' ∧
      newLines (edits ++ edits') = newLines edits ++ newLines edits' ∧
      keptLines (edits ++ edits') = keptLines edits ++ keptLines edits' :=
  ⟨List.filterMap_append, List.filterMap_append, List.filterMap_append⟩

/-- Kept lines are both old and new. -/
@[simp] theorem readings_map_keep (xs : List α) :
    oldLines (xs.map .keep) = xs ∧ newLines (xs.map .keep) = xs ∧
      keptLines (xs.map .keep) = xs := by
  induction xs with
  | nil => simp
  | cons x xs ih => simp [ih]

/-- Deleted lines are old only. -/
@[simp] theorem readings_map_delete (xs : List α) :
    oldLines (xs.map .delete) = xs ∧ newLines (xs.map .delete) = [] ∧
      keptLines (xs.map .delete) = [] := by
  induction xs with
  | nil => simp
  | cons x xs ih => simp [ih]

/-- Inserted lines are new only. -/
@[simp] theorem readings_map_insert (xs : List α) :
    oldLines (xs.map .insert) = [] ∧ newLines (xs.map .insert) = xs ∧
      keptLines (xs.map .insert) = [] := by
  induction xs with
  | nil => simp
  | cons x xs ih => simp [ih]

/-- Every kept line is counted on both sides, and every changed line on one. -/
theorem length_oldLines_add_length_newLines (edits : List (Edit α)) :
    (oldLines edits).length + (newLines edits).length =
      changeCount edits + 2 * (keptLines edits).length := by
  unfold changeCount
  induction edits with
  | nil => simp
  | cons e edits ih =>
    rw [List.countP_cons]
    cases e <;> simp [Edit.isChange] <;> omega

/-- The kept lines stand in order on both sides. -/
theorem keptLines_sublist (edits : List (Edit α)) :
    keptLines edits <+ oldLines edits ∧ keptLines edits <+ newLines edits := by
  induction edits with
  | nil => simp
  | cons e edits ih =>
    obtain ⟨hold, hnew⟩ := ih
    cases e with
    | keep a => simpa using ⟨hold, hnew⟩
    | delete a => simpa using ⟨hold.cons a, hnew⟩
    | insert a => simpa using ⟨hold, hnew.cons a⟩

/-! ## Deletions before insertions -/

/-- A reading that passes over deletions, or over insertions, stays the same when the deletions of
each run are moved ahead. A deletion moves ahead of the insertions held back, so it is read in its
place if it is not read at all or if none of these are. -/
theorem filterMap_orderFrom {β : Type} {read : Edit α → Option β}
    (dels inss edits : List (Edit α))
    (hpass : (∀ a, read (.delete a) = none) ∨
      (∀ a, read (.insert a) = none) ∧ inss.filterMap read = []) :
    (orderFrom dels inss edits).filterMap read =
      dels.reverse.filterMap read ++ inss.reverse.filterMap read ++ edits.filterMap read := by
  have hcons : ∀ (e : Edit α) (es : List (Edit α)),
      (e :: es).filterMap read = (read e).toList ++ es.filterMap read := by
    intro e es
    cases h : read e <;> simp [h]
  induction edits generalizing dels inss with
  | nil => simp [orderFrom]
  | cons e edits ih =>
    cases e with
    | keep a =>
      have hrest := ih [] [] (hpass.imp_right fun h => ⟨h.1, rfl⟩)
      simp [orderFrom, hcons, hrest]
    | delete a =>
      rw [orderFrom, ih _ _ hpass, List.reverse_cons, List.filterMap_append, hcons, hcons]
      rcases hpass with hdelete | ⟨-, hinss⟩
      · simp [hdelete]
      · simp [List.filterMap_reverse, hinss]
    | insert a =>
      have hmore : (∀ a, read (.delete a) = none) ∨
          (∀ a, read (.insert a) = none) ∧ (.insert a :: inss).filterMap read = [] := by
        rcases hpass with hdelete | ⟨hinsert, hinss⟩
        · exact .inl hdelete
        · exact .inr ⟨hinsert, by simp [hinsert, hinss]⟩
      rw [orderFrom, ih _ _ hmore, List.reverse_cons, List.filterMap_append, hcons, hcons]
      simp

/-- The three readings are the same when the deletions of each run are moved ahead. -/
theorem readings_orderChanges (edits : List (Edit α)) :
    oldLines (orderChanges edits) = oldLines edits ∧
      newLines (orderChanges edits) = newLines edits ∧
      keptLines (orderChanges edits) = keptLines edits := by
  refine ⟨?_, ?_, ?_⟩
  · exact filterMap_orderFrom [] [] edits (.inr ⟨fun _ => rfl, rfl⟩)
  · exact filterMap_orderFrom [] [] edits (.inl fun _ => rfl)
  · exact filterMap_orderFrom [] [] edits (.inl fun _ => rfl)

/-! ## Scripts that keep a longest common subsequence -/

variable [DecidableEq α]

/-- A script between two sides that keeps a longest common subsequence of them. -/
structure KeepsLongest (edits : List (Edit α)) (old new : List α) : Prop where
  old_eq : oldLines edits = old
  new_eq : newLines edits = new
  length_kept : (keptLines edits).length = lcsLength old new

/-- The first occurrence of a line is kept; if there is none, no script is given. -/
theorem keepsLongest_matchOne (line : α) (new : List α) :
    match matchOne line new with
    | some edits => KeepsLongest edits [line] new
    | none => line ∉ new := by
  induction new with
  | nil => simp [matchOne]
  | cons b new ih =>
    unfold matchOne
    by_cases hb : b = line
    · subst hb
      rw [if_pos rfl]
      exact ⟨by simp, by simp, by simp⟩
    · rw [if_neg hb]
      cases hrest : matchOne line new with
      | none =>
        rw [hrest] at ih
        simpa [Ne.symm hb] using ih
      | some edits =>
        rw [hrest] at ih
        refine ⟨by simpa using ih.old_eq, by simpa using ih.new_eq, ?_⟩
        simp [lcsLength, Ne.symm hb, ih.length_kept]

/-- Without a line of its own on the other side, a line is in no common subsequence. -/
theorem lcsLength_singleton_of_notMem {line : α} {new : List α} (h : line ∉ new) :
    lcsLength [line] new = 0 := by
  obtain ⟨s, hline, hnew, hlength⟩ := exists_common_sublist [line] new
  rw [← hlength, List.length_eq_zero_iff]
  rcases List.sublist_singleton.mp hline with rfl | rfl
  · rfl
  · exact absurd (List.singleton_sublist.mp hnew) h

/-- Cutting both sides at the point chosen loses nothing, down to sides of one line or none. -/
theorem keepsLongest_splitChanges (old new : List α) :
    KeepsLongest (splitChanges old new) old new := by
  induction old, new using splitChanges.induct with
  | case1 new =>
    rw [splitChanges]
    exact ⟨by simp, by simp, by simp⟩
  | case2 old hold =>
    rw [splitChanges]
    · exact ⟨by simp, by simp, by simp⟩
    · exact hold
  | case3 line new hnew =>
    rw [splitChanges]
    · have hmatch := keepsLongest_matchOne line new
      cases hcase : matchOne line new with
      | some edits => simpa [hcase] using hmatch
      | none =>
        rw [hcase] at hmatch
        exact ⟨by simp, by simp, by simp [lcsLength_singleton_of_notMem hmatch]⟩
    · exact hnew
  | case4 a b rest new hnew mid front back point ihfront ihback =>
    rw [splitChanges]
    · have hlines : front ++ back = a :: b :: rest := List.take_append_drop _ _
      have hcut : new.take point ++ new.drop point = new := List.take_append_drop _ _
      refine ⟨?_, ?_, ?_⟩
      · rw [(readings_append _ _).1, ihfront.old_eq, ihback.old_eq, hlines]
      · rw [(readings_append _ _).2.1, ihfront.new_eq, ihback.new_eq, hcut]
      · rw [(readings_append _ _).2.2, List.length_append, ihfront.length_kept,
          ihback.length_kept, ← hlines]
        exact (lcsLength_split front back new).symm
    · exact hnew

/-- The common beginning of two lists stands at the beginning of both. -/
theorem take_commonLength (xs ys : List α) :
    xs.take (commonLength xs ys) = ys.take (commonLength xs ys) := by
  induction xs, ys using commonLength.induct with
  | case1 a as bs ih => simp [commonLength, ih]
  | case2 a as b bs hab => simp [commonLength, hab]
  | case3 xs ys hcons =>
    rw [commonLength]
    · simp
    · exact hcons

/-- The common end of two lists, found from behind, stands at the end of both. -/
theorem drop_commonLength_reverse (xs ys : List α) :
    xs.drop (xs.length - commonLength xs.reverse ys.reverse) =
      ys.drop (ys.length - commonLength xs.reverse ys.reverse) := by
  have htake := take_commonLength xs.reverse ys.reverse
  rw [List.take_reverse, List.take_reverse] at htake
  exact List.reverse_injective htake

/-- Keeping the common beginning and end around a longest common subsequence of what lies between
makes a longest one of the whole. -/
theorem KeepsLongest.surround {edits : List (Edit α)} {old new : List α}
    (h : KeepsLongest edits old new) (start stop : List α) :
    KeepsLongest (start.map .keep ++ edits ++ stop.map .keep) (start ++ old ++ stop)
      (start ++ new ++ stop) := by
  refine ⟨by simp [h.old_eq], by simp [h.new_eq], ?_⟩
  rw [List.append_assoc, List.append_assoc start old, List.append_assoc start new,
    lcsLength_append_left, lcsLength_append_right]
  simp [h.length_kept]

/-- The edit script is a script between the two sides that keeps a longest common subsequence. -/
theorem keepsLongest_editScript (old new : List α) :
    KeepsLongest (editScript old new) old new := by
  let start := commonLength old new
  let oldRest := old.drop start
  let newRest := new.drop start
  let stop := commonLength oldRest.reverse newRest.reverse
  let oldMid := oldRest.take (oldRest.length - stop)
  let newMid := newRest.take (newRest.length - stop)
  let tail := oldRest.drop (oldRest.length - stop)
  have hold : old.take start ++ oldMid ++ tail = old := by
    rw [List.append_assoc, List.take_append_drop, List.take_append_drop]
  have hnew : old.take start ++ newMid ++ tail = new := by
    have htail : tail = newRest.drop (newRest.length - stop) :=
      drop_commonLength_reverse oldRest newRest
    rw [htail, take_commonLength, List.append_assoc, List.take_append_drop, List.take_append_drop]
  have hscript := (keepsLongest_splitChanges oldMid newMid).surround (old.take start) tail
  rw [hold, hnew] at hscript
  obtain ⟨hordered, hordered', hordered''⟩ := readings_orderChanges
    ((old.take start).map .keep ++ splitChanges oldMid newMid ++ tail.map .keep)
  refine ⟨?_, ?_, ?_⟩
  · exact hordered.trans hscript.old_eq
  · exact hordered'.trans hscript.new_eq
  · exact (congrArg List.length hordered'').trans hscript.length_kept

/-- The edit script takes the old lines and gives the new ones, its kept lines are a longest common
subsequence of both, and no script between the same sides changes fewer lines. -/
theorem editScript_shortest (old new : List α) :
    oldLines (editScript old new) = old ∧
    newLines (editScript old new) = new ∧
    (keptLines (editScript old new) <+ old ∧ keptLines (editScript old new) <+ new ∧
      ∀ s, s <+ old → s <+ new → s.length ≤ (keptLines (editScript old new)).length) ∧
    ∀ edits, oldLines edits = old → newLines edits = new →
      changeCount (editScript old new) ≤ changeCount edits := by
  obtain ⟨hold, hnew, hkept⟩ := keepsLongest_editScript old new
  have hlongest : ∀ s, s <+ old → s <+ new →
      s.length ≤ (keptLines (editScript old new)).length := by
    intro s hsold hsnew
    rw [hkept]
    exact length_le_lcsLength hsold hsnew
  have hsub := keptLines_sublist (editScript old new)
  rw [hold, hnew] at hsub
  refine ⟨hold, hnew, ⟨hsub.1, hsub.2, hlongest⟩, fun edits hold' hnew' => ?_⟩
  have hsub' := keptLines_sublist edits
  rw [hold', hnew'] at hsub'
  have hle := hlongest _ hsub'.1 hsub'.2
  have hcount := length_oldLines_add_length_newLines (editScript old new)
  have hcount' := length_oldLines_add_length_newLines edits
  rw [hold, hnew] at hcount
  rw [hold', hnew'] at hcount'
  omega

end TableTypes.LineDiff
