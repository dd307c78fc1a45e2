import Mathlib.Data.List.Chain
import TableTypes.Proofs.LineDiff.PatchText

/-!
# Hunks are tight

The stretches of a script that its hunks show stand in order and apart: behind each of them comes a
kept line that none of them shows. Each change is shown once, with three kept lines before and after
it where there are as many. Within a run of changes the deletions come first.
-/

namespace TableTypes.LineDiff

open Text Unicode
open scoped List

variable {α : Type}

/-! ## Deletions before insertions -/

/-- Every run of changes in a script consists of deletions and then insertions. -/
def DeletionsFirst (edits : List (Edit α)) : Prop :=
  ∀ run, run <:+: edits → (∀ e ∈ run, e.isChange = true) →
    ∃ deleted inserted : List α, run = deleted.map .delete ++ inserted.map .insert

/-- Whether a step may stand directly before another one: no insertion stands before a deletion. -/
def Edit.MayPrecede : Edit α → Edit α → Prop
  | insert _, delete _ => False
  | _, _ => True

/-- A run of changes in which no insertion stands before a deletion has its deletions first. -/
theorem exists_run_of_isChain {run : List (Edit α)} (h : run.IsChain Edit.MayPrecede)
    (hchange : ∀ e ∈ run, e.isChange = true) :
    ∃ deleted inserted : List α, run = deleted.map .delete ++ inserted.map .insert := by
  induction run with
  | nil => exact ⟨[], [], rfl⟩
  | cons e run ih =>
    obtain ⟨hfirst, hrest⟩ := List.isChain_cons.mp h
    obtain ⟨he, hchange⟩ := List.forall_mem_cons.mp hchange
    obtain ⟨deleted, inserted, rfl⟩ := ih hrest hchange
    cases e with
    | keep a => cases he
    | delete a => exact ⟨a :: deleted, inserted, rfl⟩
    | insert a =>
      cases deleted with
      | nil => exact ⟨[], a :: inserted, rfl⟩
      | cons b deleted => exact (hfirst (.delete b) rfl).elim

/-- Moving the deletions ahead leaves no insertion before a deletion: what is held back is written
out as deletions and then insertions, before a kept line or at the end. -/
theorem isChain_orderFrom (deleted inserted : List α) (edits : List (Edit α)) :
    (orderFrom (deleted.map .delete) (inserted.map .insert) edits).IsChain Edit.MayPrecede := by
  have hrun (deleted inserted : List α) :
      ((deleted.map Edit.delete).reverse ++ (inserted.map Edit.insert).reverse).IsChain
        Edit.MayPrecede := by
    rw [← List.map_reverse, ← List.map_reverse]
    refine List.isChain_append.mpr ⟨?_, ?_, fun e he e' _ => ?_⟩
    · exact (List.isChain_map _).mpr (List.pairwise_of_forall fun _ _ => trivial).isChain
    · exact (List.isChain_map _).mpr (List.pairwise_of_forall fun _ _ => trivial).isChain
    · obtain ⟨a, -, rfl⟩ := List.mem_map.mp (List.mem_of_getLast? he)
      trivial
  induction edits generalizing deleted inserted with
  | nil => exact hrun deleted inserted
  | cons e edits ih =>
    cases e with
    | keep a =>
      refine List.isChain_append.mpr ⟨hrun deleted inserted, ?_, fun e _ e' he' => ?_⟩
      · refine List.isChain_cons.mpr ⟨fun _ _ => trivial, ?_⟩
        exact ih [] []
      · obtain rfl : Edit.keep a = e' := Option.some.inj he'
        cases e <;> trivial
    | delete a => exact ih (a :: deleted) inserted
    | insert a => exact ih deleted (a :: inserted)

/-- Ordering the changes puts deletions first. -/
theorem deletionsFirst_orderChanges (edits : List (Edit α)) :
    DeletionsFirst (orderChanges edits) := by
  intro run hrun hchange
  obtain ⟨before, after, hsplit⟩ := hrun
  have hchain : (orderChanges edits).IsChain Edit.MayPrecede := isChain_orderFrom [] [] edits
  rw [← hsplit] at hchain
  exact exists_run_of_isChain hchain.left_of_append.right_of_append hchange

/-- The script has deletions first. -/
theorem deletionsFirst_editScript [DecidableEq α] (old new : List α) :
    DeletionsFirst (editScript old new) := by
  unfold editScript
  exact deletionsFirst_orderChanges _

/-- A part of a script with deletions first has them first, too. -/
theorem DeletionsFirst.of_infix {edits part : List (Edit α)} (h : DeletionsFirst edits)
    (hpart : part <:+: edits) : DeletionsFirst part :=
  fun run hrun hchange => h run (hrun.trans hpart) hchange

/-! ## Kept lines around a change -/

/-- How many kept lines a script begins with. -/
def keptAhead (edits : List (Edit α)) : ℕ :=
  (edits.takeWhile fun e => !e.isChange).length

/-- How many kept lines a script ends with. -/
def keptBehind (edits : List (Edit α)) : ℕ :=
  keptAhead edits.reverse

/-- A script without a change among its first steps begins with as many kept lines. -/
theorem le_keptAhead {edits : List (Edit α)} {n : ℕ} (hn : n ≤ edits.length)
    (hquiet : ∀ i < n, ¬ChangeAt edits i) : n ≤ keptAhead edits := by
  induction n generalizing edits with
  | zero => exact Nat.zero_le _
  | succ n ih =>
    cases edits with
    | nil => simp at hn
    | cons e edits =>
      have he : e.isChange = false := by
        by_contra hchange
        exact hquiet 0 (by omega) ⟨e, rfl, by simpa using hchange⟩
      have hrest : n ≤ keptAhead edits := by
        refine ih (by simpa using hn) fun i hi hchange => ?_
        obtain ⟨e', he', hchange⟩ := hchange
        exact hquiet (i + 1) (by omega) ⟨e', by simpa using he', hchange⟩
      simpa [keptAhead, he] using hrest

/-- A script begins with no more kept lines than it has steps. -/
theorem keptAhead_le_length (edits : List (Edit α)) : keptAhead edits ≤ edits.length :=
  (List.takeWhile_sublist _).length_le

/-- A script without a change among its last steps ends with as many kept lines. -/
theorem le_keptBehind {edits : List (Edit α)} {n : ℕ} (hn : n ≤ edits.length)
    (hquiet : ∀ i, edits.length - n ≤ i → i < edits.length → ¬ChangeAt edits i) :
    n ≤ keptBehind edits := by
  refine le_keptAhead (by simpa using hn) fun i hi hchange => ?_
  obtain ⟨e, he, hchange⟩ := hchange
  have hlength : i < edits.length := by omega
  rw [List.getElem?_reverse hlength] at he
  exact hquiet (edits.length - 1 - i) (by omega) (by omega) ⟨e, he, hchange⟩

/-- A script ends with no more kept lines than it has steps. -/
theorem keptBehind_le_length (edits : List (Edit α)) : keptBehind edits ≤ edits.length := by
  rw [keptBehind, ← List.length_reverse]
  exact keptAhead_le_length edits.reverse

/-! ## The stretches that hunks show -/

/-- A stretch of a script around the changes from `first` to `last`: it reaches three steps further
on both sides, as far as there are steps, and there is no change in these steps nor in the one
behind the stretch. -/
structure Window (edits : List (Edit α)) (range : ℕ × ℕ) (first last : ℕ) : Prop where
  first_le_last : first ≤ last
  first_change : ChangeAt edits first
  last_change : ChangeAt edits last
  start_eq : range.1 = first - contextLines
  stop_eq : range.2 = min (last + contextLines + 1) edits.length
  quiet_before : ∀ i, range.1 ≤ i → i < first → ¬ChangeAt edits i
  quiet_after : ∀ i, last < i → i ≤ range.2 → ¬ChangeAt edits i

/-- A change is at the place of a step. -/
theorem ChangeAt.lt_length {edits : List (Edit α)} {i : ℕ} (h : ChangeAt edits i) :
    i < edits.length := by
  obtain ⟨e, he, -⟩ := h
  exact (List.getElem?_eq_some_iff.mp he).1

/-- Each stretch lies around changes. The induction is on the changes still to come: the growing
stretch reaches behind the last one seen, and the next one either makes it grow or lies so far
behind that no change is between. -/
theorem exists_window_of_mem_mergeWindows {edits : List (Edit α)} {first last start : ℕ}
    {positions : List ℕ} (hle : first ≤ last) (hfirst : ChangeAt edits first)
    (hlast : ChangeAt edits last) (hstart : start = first - contextLines)
    (hbefore : ∀ i, start ≤ i → i < first → ¬ChangeAt edits i)
    (hsorted : positions.Pairwise (· < ·))
    (hpositions : ∀ i, i ∈ positions ↔ last < i ∧ ChangeAt edits i) {range : ℕ × ℕ}
    (hrange : range ∈ mergeWindows edits.length
      (start, min (last + contextLines + 1) edits.length) positions) :
    ∃ first last, Window edits range first last := by
  induction positions generalizing first last start with
  | nil =>
    obtain rfl := List.mem_singleton.mp hrange
    refine ⟨first, last, hle, hfirst, hlast, hstart, rfl, hbefore, fun i hi _ hchange => ?_⟩
    simpa using (hpositions i).mpr ⟨hi, hchange⟩
  | cons i positions ih =>
    obtain ⟨hlater, hsorted⟩ := List.pairwise_cons.mp hsorted
    obtain ⟨hi, hchange⟩ := (hpositions i).mp List.mem_cons_self
    have hrest : ∀ j, j ∈ positions ↔ i < j ∧ ChangeAt edits j := by
      intro j
      constructor
      · exact fun hj => ⟨hlater j hj, ((hpositions j).mp (List.mem_cons_of_mem i hj)).2⟩
      · rintro ⟨hij, hj⟩
        rcases List.mem_cons.mp ((hpositions j).mpr ⟨by omega, hj⟩) with rfl | hmem
        · omega
        · exact hmem
    have hnext : ∀ j, last < j → j < i → ¬ChangeAt edits j := by
      intro j hj hji hchange
      rcases List.mem_cons.mp ((hpositions j).mpr ⟨hj, hchange⟩) with rfl | hmem
      · omega
      · have := hlater j hmem
        omega
    have hlength := hlast.lt_length
    dsimp only [mergeWindows] at hrange
    split at hrange
    next hmeets => exact ih (by omega) hfirst hchange hstart hbefore hsorted hrest hrange
    next happart =>
      rcases List.mem_cons.mp hrange with rfl | hrange
      · refine ⟨first, last, hle, hfirst, hlast, hstart, rfl, hbefore, fun j hj hstop => ?_⟩
        exact hnext j hj (by omega)
      · refine ih le_rfl hchange hchange rfl (fun j hj hji => ?_) hsorted hrest hrange
        exact hnext j (by omega) hji

/-- Each stretch of a script that its hunks show lies around changes. -/
theorem exists_window_of_mem_windows {edits : List (Edit α)} {range : ℕ × ℕ}
    (hrange : range ∈ windows edits.length (changePositions 0 edits)) :
    ∃ first last, Window edits range first last := by
  have hmem : ∀ i, i ∈ changePositions 0 edits ↔ ChangeAt edits i := by
    intro i
    simp [mem_changePositions]
  have hsorted := pairwise_changePositions edits 0
  cases hpositions : changePositions 0 edits with
  | nil =>
    rw [hpositions] at hrange
    cases hrange
  | cons i positions =>
    rw [hpositions] at hrange hmem hsorted
    obtain ⟨hlater, hsorted⟩ := List.pairwise_cons.mp hsorted
    have hi := (hmem i).mp List.mem_cons_self
    refine exists_window_of_mem_mergeWindows le_rfl hi hi rfl (fun j _ hji hchange => ?_) hsorted
      (fun j => ⟨fun hj => ⟨hlater j hj, (hmem j).mp (List.mem_cons_of_mem i hj)⟩, ?_⟩) hrange
    · rcases List.mem_cons.mp ((hmem j).mpr hchange) with rfl | hj
      · omega
      · have := hlater j hj
        omega
    · rintro ⟨hij, hj⟩
      rcases List.mem_cons.mp ((hmem j).mpr hj) with rfl | hj
      · omega
      · exact hj

/-- A stretch begins at the growing one or three steps before a change to come. -/
theorem start_of_mem_mergeWindows {n : ℕ} {range range' : ℕ × ℕ} {positions : List ℕ}
    (h : range' ∈ mergeWindows n range positions) :
    range'.1 = range.1 ∨ ∃ i ∈ positions, range'.1 = i - contextLines := by
  induction positions generalizing range with
  | nil =>
    obtain rfl := List.mem_singleton.mp h
    exact .inl rfl
  | cons i positions ih =>
    dsimp only [mergeWindows] at h
    split at h
    · refine (ih h).imp_right fun ⟨j, hj, heq⟩ => ?_
      exact ⟨j, List.mem_cons_of_mem i hj, heq⟩
    · rcases List.mem_cons.mp h with rfl | h
      · exact .inl rfl
      · rcases ih h with heq | ⟨j, hj, heq⟩
        · exact .inr ⟨i, List.mem_cons_self, heq⟩
        · exact .inr ⟨j, List.mem_cons_of_mem i hj, heq⟩

/-- Each stretch ends before the next one begins, with a step between. -/
theorem pairwise_mergeWindows {n : ℕ} {range : ℕ × ℕ} {positions : List ℕ}
    (hsorted : positions.Pairwise (· < ·)) :
    (mergeWindows n range positions).Pairwise fun r s => r.2 < s.1 := by
  induction positions generalizing range with
  | nil => exact List.pairwise_singleton _ _
  | cons i positions ih =>
    obtain ⟨hlater, hsorted⟩ := List.pairwise_cons.mp hsorted
    dsimp only [mergeWindows]
    split
    · exact ih hsorted
    · next happart =>
      refine List.pairwise_cons.mpr ⟨fun s hs => ?_, ih hsorted⟩
      rcases start_of_mem_mergeWindows hs with heq | ⟨j, hj, heq⟩
      · omega
      · have := hlater j hj
        omega

/-- Each stretch ends before the next one begins, with a step between them. -/
theorem pairwise_windows (edits : List (Edit α)) :
    (windows edits.length (changePositions 0 edits)).Pairwise fun r s => r.2 < s.1 := by
  have hsorted := pairwise_changePositions edits 0
  cases hpositions : changePositions 0 edits with
  | nil => exact .nil
  | cons i positions =>
    rw [hpositions] at hsorted
    exact pairwise_mergeWindows (List.pairwise_cons.mp hsorted).2

/-- A change behind a position lies in one of the stretches that cover the script from there on. -/
theorem Covers.exists_range {edits : List (Edit α)} {p i : ℕ} {ranges : List (ℕ × ℕ)}
    (h : Covers edits p ranges) (hi : p ≤ i) (hchange : ChangeAt edits i) :
    ∃ r ∈ ranges, r.1 ≤ i ∧ i < r.2 := by
  induction h with
  | done hquiet => exact absurd hchange (hquiet i hi)
  | @next p start stop ranges _ _ _ hquiet _ ih =>
    rcases Nat.lt_or_ge i stop with hstop | hstop
    · refine ⟨(start, stop), List.mem_cons_self, ?_, hstop⟩
      by_contra hstart
      exact hquiet i hi (by simpa using hstart) hchange
    · obtain ⟨r, hr, hinside⟩ := ih hstop
      exact ⟨r, List.mem_cons_of_mem _ hr, hinside⟩

/-- A position in one of some stretches that stand apart is in exactly one of them. -/
theorem countP_eq_one_of_pairwise {ranges : List (ℕ × ℕ)} {i : ℕ}
    (hapart : ranges.Pairwise fun r s => r.2 < s.1) (hi : ∃ r ∈ ranges, r.1 ≤ i ∧ i < r.2) :
    ranges.countP (fun r => r.1 ≤ i ∧ i < r.2) = 1 := by
  induction ranges with
  | nil => simp at hi
  | cons r ranges ih =>
    obtain ⟨hlater, hapart⟩ := List.pairwise_cons.mp hapart
    by_cases hr : r.1 ≤ i ∧ i < r.2
    · have hnone : ranges.countP (fun r => r.1 ≤ i ∧ i < r.2) = 0 := by
        refine List.countP_eq_zero.mpr fun s hs => ?_
        have := hlater s hs
        simp only [decide_eq_true_eq]
        omega
      rw [List.countP_cons_of_pos (by simpa using hr), hnone]
    · have hrest : ∃ s ∈ ranges, s.1 ≤ i ∧ i < s.2 := by
        obtain ⟨s, hs, hinside⟩ := hi
        rcases List.mem_cons.mp hs with rfl | hs
        · exact absurd hinside hr
        · exact ⟨s, hs, hinside⟩
      rw [List.countP_cons_of_neg (by simpa using hr), ih hapart hrest]

/-! ## Context -/

/-- A stretch of a script shows the changes from `first` to `last` with their context: on each side
three kept lines, or as many as there are up to the next change or the end of the script. -/
structure HasContext (edits : List (Edit α)) (range : ℕ × ℕ) (first last : ℕ) : Prop where
  start_le : range.1 ≤ first
  first_le_last : first ≤ last
  last_lt : last < range.2
  stop_le : range.2 ≤ edits.length
  first_change : ChangeAt edits first
  last_change : ChangeAt edits last
  kept_before : ∀ i, range.1 ≤ i → i < first → ¬ChangeAt edits i
  kept_after : ∀ i, last < i → i < range.2 → ¬ChangeAt edits i
  length_before : first - range.1 = min contextLines (keptBehind (edits.take first))
  length_after : range.2 - (last + 1) = min contextLines (keptAhead (edits.drop (last + 1)))

/-- A stretch that reaches as far as it can shows its changes with their context. -/
theorem Window.hasContext {edits : List (Edit α)} {range : ℕ × ℕ} {first last : ℕ}
    (h : Window edits range first last) : HasContext edits range first last := by
  have hlast := h.last_change.lt_length
  have hstart := h.start_eq
  have hstop := h.stop_eq
  have hle := h.first_le_last
  refine ⟨by omega, hle, by omega, by omega, h.first_change, h.last_change, h.quiet_before,
    fun i hi hi' => h.quiet_after i hi (Nat.le_of_lt hi'), ?_, ?_⟩
  · have hlength : (edits.take first).length = first := by
      rw [List.length_take]
      omega
    have hle : first - range.1 ≤ keptBehind (edits.take first) := by
      refine le_keptBehind (by omega) fun i hi hi' hchange => ?_
      obtain ⟨e, he, hchange⟩ := hchange
      rw [List.getElem?_take_of_lt (by omega)] at he
      exact h.quiet_before i (by omega) (by omega) ⟨e, he, hchange⟩
    have hge := keptBehind_le_length (edits.take first)
    omega
  · have hlength : (edits.drop (last + 1)).length = edits.length - (last + 1) :=
      List.length_drop
    have hle : range.2 - (last + 1) ≤ keptAhead (edits.drop (last + 1)) := by
      refine le_keptAhead (by omega) fun i hi hchange => ?_
      obtain ⟨e, he, hchange⟩ := hchange
      rw [List.getElem?_drop] at he
      exact h.quiet_after (last + 1 + i) (by omega) (by omega) ⟨e, he, hchange⟩
    have hge := keptAhead_le_length (edits.drop (last + 1))
    omega

/-! ## Lines on both sides -/

/-- A step that is no change keeps a line. -/
theorem exists_keep_of_not_changeAt {edits : List (Edit α)} {i : ℕ} (hi : i < edits.length)
    (h : ¬ChangeAt edits i) : ∃ a, edits[i]? = some (.keep a) := by
  have hget : edits[i]? = some edits[i] := List.getElem?_eq_getElem hi
  cases hedit : edits[i] with
  | keep a => exact ⟨a, by rw [hget, hedit]⟩
  | delete a => exact absurd ⟨_, hget, by simp [hedit, Edit.isChange]⟩ h
  | insert a => exact absurd ⟨_, hget, by simp [hedit, Edit.isChange]⟩ h

/-- A kept line belongs to both sides. -/
theorem counts_pos_of_keep_mem {edits : List (Edit α)} {a : α} (h : .keep a ∈ edits) :
    0 < oldCount edits ∧ 0 < newCount edits :=
  ⟨List.length_pos_of_mem (List.mem_filterMap.mpr ⟨_, h, rfl⟩),
    List.length_pos_of_mem (List.mem_filterMap.mpr ⟨_, h, rfl⟩)⟩

/-- A stretch with a step that is no change has lines on both sides. -/
theorem counts_slice_pos {edits : List (Edit α)} {start stop i : ℕ} (hstart : start ≤ i)
    (hi : i < stop) (hstop : stop ≤ edits.length) (hkept : ¬ChangeAt edits i) :
    0 < oldCount ((edits.drop start).take (stop - start)) ∧
      0 < newCount ((edits.drop start).take (stop - start)) := by
  obtain ⟨a, ha⟩ := exists_keep_of_not_changeAt (by omega) hkept
  refine counts_pos_of_keep_mem (a := a) (List.mem_of_getElem? (i := i - start) ?_)
  rw [List.getElem?_take_of_lt (by omega), List.getElem?_drop, Nat.add_sub_cancel' hstart, ha]

/-- A hunk stands before another one on both sides, with at least one line between them. -/
def Hunk.Before (h h' : Hunk) : Prop :=
  h.oldBefore + oldCount h.edits < h'.oldBefore ∧ h.newBefore + newCount h.edits < h'.newBefore

/-- A kept line behind a stretch comes on both sides before the next stretch. -/
theorem before_hunkAt {edits : List (Edit String)} {r s : ℕ × ℕ} (hr : r.1 ≤ r.2)
    (happart : r.2 < s.1) (hs : s.1 ≤ edits.length) (hkept : ¬ChangeAt edits r.2) :
    (hunkAt edits r).Before (hunkAt edits s) := by
  have hbetween := counts_slice_pos le_rfl happart hs hkept
  simp only [Hunk.Before, hunkAt]
  rw [← oldCount_append, ← newCount_append, take_append_slice hr,
    ← take_append_slice (Nat.le_of_lt happart), oldCount_append, newCount_append]
  omega

/-- A stretch has lines on both sides if the script has: without a kept line in it there is none in
the whole script, which it then shows from its beginning to its end. -/
theorem Window.counts_pos {edits : List (Edit String)} {range : ℕ × ℕ} {first last : ℕ}
    (h : Window edits range first last) (hold : 0 < oldCount edits) (hnew : 0 < newCount edits) :
    0 < oldCount (hunkAt edits range).edits ∧ 0 < newCount (hunkAt edits range).edits := by
  have hcontext := h.hasContext
  have hstart := hcontext.start_le
  have hle := hcontext.first_le_last
  have hlast := hcontext.last_lt
  have hstop := hcontext.stop_le
  have hthree : contextLines = 3 := rfl
  by_cases hbefore : range.1 < first
  · exact counts_slice_pos le_rfl (by omega) hstop (hcontext.kept_before range.1 le_rfl hbefore)
  by_cases hafter : last + 1 < range.2
  · exact counts_slice_pos (by omega) hafter hstop
      (hcontext.kept_after (last + 1) (by omega) hafter)
  have hstart_eq := h.start_eq
  have hstop_eq := h.stop_eq
  have hwhole : (hunkAt edits range).edits = edits := by
    simp only [hunkAt]
    rw [show range.1 = 0 by omega, List.drop_zero, List.take_of_length_le (by omega)]
  rw [hwhole]
  exact ⟨hold, hnew⟩

/-! ## The hunks of a difference -/

/-- Stretches that show the changes of a script in order, each of them once, with three kept lines
around them where there are as many. -/
structure ShowTightly (edits : List (Edit String)) (ranges : List (ℕ × ℕ)) : Prop where
  ordered : (ranges.map (hunkAt edits)).Pairwise Hunk.Before
  separated : ranges.Pairwise fun r s => r.2 < s.1 ∧ ¬ChangeAt edits r.2
  shown_once : ∀ i, ChangeAt edits i → ranges.countP (fun r => r.1 ≤ i ∧ i < r.2) = 1
  context : ∀ r ∈ ranges, ∃ first last, HasContext edits r first last
  counts_pos : ∀ r ∈ ranges,
    0 < oldCount (hunkAt edits r).edits ∧ 0 < newCount (hunkAt edits r).edits
  deletionsFirst : ∀ r ∈ ranges, DeletionsFirst (hunkAt edits r).edits

/-- The stretches around the changes of a script show them tightly if both sides have lines and the
deletions of each run come first. -/
theorem showTightly_windows {edits : List (Edit String)} (hfirst : DeletionsFirst edits)
    (hold : 0 < oldCount edits) (hnew : 0 < newCount edits) :
    ShowTightly edits (windows edits.length (changePositions 0 edits)) := by
  have hwindow {r : ℕ × ℕ} (hr : r ∈ windows edits.length (changePositions 0 edits)) :=
    exists_window_of_mem_windows hr
  have hapart := pairwise_windows edits
  have hseparated : (windows edits.length (changePositions 0 edits)).Pairwise fun r s =>
      r.2 < s.1 ∧ ¬ChangeAt edits r.2 := by
    refine hapart.imp_of_mem fun {r s} hr _ hrs => ⟨hrs, ?_⟩
    obtain ⟨first, last, h⟩ := hwindow hr
    exact h.quiet_after r.2 h.hasContext.last_lt le_rfl
  refine ⟨?_, hseparated, ?_, ?_, ?_, ?_⟩
  · refine List.pairwise_map.mpr (hseparated.imp_of_mem fun {r s} hr hs hrs => ?_)
    obtain ⟨_, _, h⟩ := hwindow hr
    obtain ⟨_, _, h'⟩ := hwindow hs
    have hr := h.hasContext
    have hs := h'.hasContext
    refine before_hunkAt ?_ hrs.1 ?_ hrs.2
    · exact hr.start_le.trans (hr.first_le_last.trans (Nat.le_of_lt hr.last_lt))
    · exact hs.start_le.trans (Nat.le_of_lt hs.first_change.lt_length)
  · intro i hchange
    exact countP_eq_one_of_pairwise hapart
      ((covers_windows edits).exists_range (Nat.zero_le i) hchange)
  · intro r hr
    obtain ⟨first, last, h⟩ := hwindow hr
    exact ⟨first, last, h.hasContext⟩
  · intro r hr
    obtain ⟨_, _, h⟩ := hwindow hr
    exact h.counts_pos hold hnew
  · intro r _
    refine hfirst.of_infix ?_
    exact (List.take_prefix _ _).isInfix.trans (List.drop_suffix _ _).isInfix

/-- The script by which a difference shows how one text becomes another one. -/
def lineEdits (old new : String) : List (Edit String) :=
  editScript (splitLines (trimText old)) (splitLines (trimText new))

/-- The hunks of a difference are those of its script. -/
theorem readHunks?_of_diff? {old new text : String} (h : diff? old new = some text) :
    readHunks? text = some (hunks (lineEdits old new)) := by
  obtain ⟨hold, hnew, -⟩ := keepsLongest_editScript (splitLines (trimText old))
    (splitLines (trimText new))
  have hlines : ∀ hunk ∈ hunks (lineEdits old new), ∀ e ∈ hunk.edits, '\n' ∉ e.shown := by
    intro hunk hhunk e he
    refine newline_notMem_shown ?_ ?_ e (mem_of_mem_hunks hhunk e he)
    · rw [lineEdits, hold]
      exact fun line => newline_notMem_of_mem_splitLines
    · rw [lineEdits, hnew]
      exact fun line => newline_notMem_of_mem_splitLines
  unfold diff? at h
  dsimp only at h
  split at h
  · cases h
  · obtain rfl := Option.some.inj h
    exact readHunks?_text hlines

/-- **The hunks of a difference are tight.** A text is given for two texts exactly when they differ
once trimmed. It can be read as hunks, by rules under which a header has to give the numbers of lines
shown below it. These hunks stand in order on both sides with a kept line behind each that comes
before the next one; each change of the script is in exactly one of them, they begin and end with
three kept lines or as many as there are, no header gives a length of zero, and in each run of
changes the deletions come first. -/
theorem hunks_tight (old new : String) :
    ((diff? old new).isSome = true ↔ trimText old ≠ trimText new) ∧
      ∀ text ∈ diff? old new, ∃ ranges,
        readHunks? text = some (ranges.map (hunkAt (lineEdits old new))) ∧
        ShowTightly (lineEdits old new) ranges := by
  have hscript : KeepsLongest (lineEdits old new) _ _ := keepsLongest_editScript _ _
  have hlines (s : String) : 0 < (splitLines s).length := by
    rw [splitLines, List.length_map]
    exact List.length_pos_iff.mpr (splitOn_ne_nil '\n' s.toList)
  have hold : 0 < oldCount (lineEdits old new) := by
    rw [← length_oldLines, hscript.old_eq]
    exact hlines _
  have hnew : 0 < newCount (lineEdits old new) := by
    change 0 < (newLines (lineEdits old new)).length
    rw [hscript.new_eq]
    exact hlines _
  have hfirst : DeletionsFirst (lineEdits old new) := deletionsFirst_editScript _ _
  refine ⟨by simp [diff?], fun text htext => ?_⟩
  exact ⟨_, readHunks?_of_diff? htext, showTightly_windows hfirst hold hnew⟩

/-- Two changes with seven lines between them are shown by two hunks. -/
theorem hunks_tight_of_seven_lines_between :
    let old := "a\n1\n2\n3\n4\n5\n6\n7\nb"
    let new := "x\n1\n2\n3\n4\n5\n6\n7\ny"
    ∃ text ranges, diff? old new = some text ∧
      readHunks? text = some (ranges.map (hunkAt (lineEdits old new))) ∧
      ShowTightly (lineEdits old new) ranges ∧ ranges.length = 2 := by
  intro old new
  obtain ⟨hgiven, htight⟩ := hunks_tight old new
  have hdiffer : trimText old ≠ trimText new := by decide +kernel
  obtain ⟨text, htext⟩ := Option.isSome_iff_exists.mp (hgiven.mpr hdiffer)
  obtain ⟨ranges, hread, hshow⟩ := htight text htext
  have hcount : (hunks (lineEdits old new)).length = 2 := by decide +kernel
  have hsame := Option.some.inj ((readHunks?_of_diff? htext).symm.trans hread)
  rw [hsame, List.length_map] at hcount
  exact ⟨text, ranges, htext, hread, hshow, hcount⟩

end TableTypes.LineDiff
