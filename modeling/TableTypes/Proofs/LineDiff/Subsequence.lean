import Mathlib.Data.List.Induction
import Mathlib.Order.Nat
import TableTypes.LineDiff.Edit

/-!
# Longest common subsequences

The length of a longest common subsequence by its usual recursion, and that it is what it is called.
The rows of the table used for edit scripts hold these lengths, and the point at which the new lines
are cut is one where the lengths of the two halves add up to that of the whole.
-/

namespace TableTypes.LineDiff

open scoped List

variable {α : Type} [DecidableEq α]

/-- The length of a longest common subsequence of two lists. -/
def lcsLength : List α → List α → ℕ
  | [], _ => 0
  | _ :: _, [] => 0
  | a :: as, b :: bs =>
    if a = b then lcsLength as bs + 1
    else max (lcsLength as (b :: bs)) (lcsLength (a :: as) bs)
termination_by xs ys => xs.length + ys.length

/-- Without a first line nothing is common. -/
@[simp] theorem lcsLength_nil_left (ys : List α) : lcsLength [] ys = 0 := by
  rw [lcsLength]

/-- Without a second line nothing is common. -/
@[simp] theorem lcsLength_nil_right (xs : List α) : lcsLength xs [] = 0 := by
  cases xs <;> rw [lcsLength]

/-- A common first line adds one to the length. -/
@[simp] theorem lcsLength_cons_self (a : α) (xs ys : List α) :
    lcsLength (a :: xs) (a :: ys) = lcsLength xs ys + 1 := by
  rw [lcsLength, if_pos rfl]

/-! ## The length is that of a longest common subsequence -/

/-- There is a common subsequence of this length. -/
theorem exists_common_sublist (xs ys : List α) :
    ∃ s, s <+ xs ∧ s <+ ys ∧ s.length = lcsLength xs ys := by
  induction xs, ys using lcsLength.induct with
  | case1 ys => exact ⟨[], by simp⟩
  | case2 a as => exact ⟨[], by simp⟩
  | case3 as b bs ih =>
    obtain ⟨s, hx, hy, hlength⟩ := ih
    exact ⟨b :: s, hx.cons_cons b, hy.cons_cons b, by simp [hlength]⟩
  | case4 a as b bs hab ihx ihy =>
    rw [lcsLength, if_neg hab]
    rcases le_total (lcsLength as (b :: bs)) (lcsLength (a :: as) bs) with hle | hle
    · obtain ⟨s, hx, hy, hlength⟩ := ihy
      exact ⟨s, hx, hy.cons b, by rw [max_eq_right hle, hlength]⟩
    · obtain ⟨s, hx, hy, hlength⟩ := ihx
      exact ⟨s, hx.cons a, hy, by rw [max_eq_left hle, hlength]⟩

/-- No common subsequence is longer. -/
theorem length_le_lcsLength {s xs ys : List α} (hx : s <+ xs) (hy : s <+ ys) :
    s.length ≤ lcsLength xs ys := by
  induction xs, ys using lcsLength.induct generalizing s with
  | case1 ys => simp [List.sublist_nil.mp hx]
  | case2 a as => simp [List.sublist_nil.mp hy]
  | case3 as b bs ih =>
    rw [lcsLength_cons_self]
    cases s with
    | nil => simp
    | cons c s =>
      have htails : s.length ≤ lcsLength as bs := by
        exact ih (by simpa using hx.tail) (by simpa using hy.tail)
      simpa using htails
  | case4 a as b bs hab ihx ihy =>
    rw [lcsLength, if_neg hab]
    rcases List.sublist_cons_iff.mp hx with hx | ⟨r, rfl, hr⟩
    · exact (ihx hx hy).trans (le_max_left _ _)
    · rcases List.sublist_cons_iff.mp hy with hy | ⟨r', heq, hr'⟩
      · exact (ihy (hr.cons_cons a) hy).trans (le_max_right _ _)
      · exact absurd (List.cons.inj heq).1 hab

/-- A bound on the common subsequences is a bound on the length. -/
theorem lcsLength_le_of_forall {xs ys : List α} {n : ℕ}
    (h : ∀ s, s <+ xs → s <+ ys → s.length ≤ n) : lcsLength xs ys ≤ n := by
  obtain ⟨s, hx, hy, hlength⟩ := exists_common_sublist xs ys
  exact hlength ▸ h s hx hy

/-! ## Lists put together and taken apart -/

/-- Reading both lists backwards changes nothing. -/
theorem lcsLength_reverse (xs ys : List α) : lcsLength xs.reverse ys.reverse = lcsLength xs ys := by
  have hle : ∀ xs ys : List α, lcsLength xs ys ≤ lcsLength xs.reverse ys.reverse := by
    intro xs ys
    refine lcsLength_le_of_forall fun s hx hy => ?_
    rw [← List.length_reverse]
    exact length_le_lcsLength hx.reverse hy.reverse
  apply le_antisymm
  · simpa using hle xs.reverse ys.reverse
  · exact hle xs ys

/-- The recursion from the ends of the lists. -/
theorem lcsLength_append_singleton (xs ys : List α) (a b : α) :
    lcsLength (xs ++ [a]) (ys ++ [b]) =
      if a = b then lcsLength xs ys + 1
      else max (lcsLength xs (ys ++ [b])) (lcsLength (xs ++ [a]) ys) := by
  have hreverse := lcsLength_reverse (xs ++ [a]) (ys ++ [b])
  rw [List.reverse_append, List.reverse_append, List.reverse_singleton, List.reverse_singleton,
    List.singleton_append, List.singleton_append, lcsLength] at hreverse
  rw [← hreverse, lcsLength_reverse, ← List.reverse_concat, ← List.reverse_concat,
    lcsLength_reverse, lcsLength_reverse]

/-- Common subsequences of parts make one of the wholes. -/
theorem lcsLength_add_le (xs xs' ys ys' : List α) :
    lcsLength xs ys + lcsLength xs' ys' ≤ lcsLength (xs ++ xs') (ys ++ ys') := by
  obtain ⟨s, hx, hy, hlength⟩ := exists_common_sublist xs ys
  obtain ⟨s', hx', hy', hlength'⟩ := exists_common_sublist xs' ys'
  rw [← hlength, ← hlength', ← List.length_append]
  exact length_le_lcsLength (hx.append hx') (hy.append hy')

/-- A common subsequence of a list in two parts cuts the other list in two. -/
theorem exists_lcsLength_append_le (xs ys zs : List α) :
    ∃ k ≤ zs.length, lcsLength (xs ++ ys) zs ≤
      lcsLength xs (zs.take k) + lcsLength ys (zs.drop k) := by
  obtain ⟨s, hx, hz, hlength⟩ := exists_common_sublist (xs ++ ys) zs
  obtain ⟨s₁, s₂, rfl, hs₁, hs₂⟩ := List.sublist_append_iff.mp hx
  obtain ⟨z₁, z₂, rfl, hz₁, hz₂⟩ := List.append_sublist_iff.mp hz
  refine ⟨z₁.length, by simp, ?_⟩
  rw [← hlength, List.length_append, List.take_left', List.drop_left']
  · exact Nat.add_le_add (length_le_lcsLength hs₁ hz₁) (length_le_lcsLength hs₂ hz₂)
  · rfl
  · rfl

/-- A common beginning belongs to a longest common subsequence. -/
theorem lcsLength_append_left (common xs ys : List α) :
    lcsLength (common ++ xs) (common ++ ys) = common.length + lcsLength xs ys := by
  induction common with
  | nil => simp
  | cons a common ih => simp [ih, Nat.add_right_comm]

/-- A common end belongs to a longest common subsequence. -/
theorem lcsLength_append_right (common xs ys : List α) :
    lcsLength (xs ++ common) (ys ++ common) = lcsLength xs ys + common.length := by
  rw [← lcsLength_reverse, List.reverse_append, List.reverse_append, lcsLength_append_left,
    lcsLength_reverse, List.length_reverse, Nat.add_comm]

/-! ## Rows of the table -/

/-- The row for one line more, from the row above it: entry `k` of the row for `xs` stands at the
first `k + 1` lines after `pre`. The induction moves the lines of the row one by one to `pre`. -/
theorem nextRow_eq (xs pre row : List α) (a : α) :
    nextRow a (lcsLength xs pre) (lcsLength (xs ++ [a]) pre) row
      ((List.range row.length).map fun k => lcsLength xs (pre ++ row.take (k + 1))) =
    (List.range row.length).map fun k => lcsLength (xs ++ [a]) (pre ++ row.take (k + 1)) := by
  induction row generalizing pre with
  | nil => rfl
  | cons b row ih =>
    have hhere : (if a = b then lcsLength xs pre + 1
        else max (lcsLength xs (pre ++ [b])) (lcsLength (xs ++ [a]) pre)) =
        lcsLength (xs ++ [a]) (pre ++ [b]) := (lcsLength_append_singleton xs pre a b).symm
    have hrest := ih (pre ++ [b])
    simp only [List.append_assoc, List.singleton_append] at hrest
    simp only [List.length_cons, List.range_succ_eq_map, List.map_cons, List.map_map,
      Function.comp_def, List.take_succ_cons, List.take_zero, nextRow, hhere, hrest,
      Nat.succ_eq_add_one]

/-- Entry `k` of a row belongs to the first `k` new lines. -/
theorem lcsRow_eq (old new : List α) :
    lcsRow old new = (List.range (new.length + 1)).map fun k => lcsLength old (new.take k) := by
  induction old using List.reverseRecOn with
  | nil => simp [lcsRow, List.map_const']
  | append_singleton old a ih =>
    have hrow : ∀ xs : List α,
        (List.range (new.length + 1)).map (fun k => lcsLength xs (new.take k)) =
          0 :: (List.range new.length).map fun k => lcsLength xs ([] ++ new.take (k + 1)) := by
      intro xs
      simp [List.range_succ_eq_map]
    have hnext := nextRow_eq old [] new a
    rw [lcsLength_nil_right, lcsLength_nil_right] at hnext
    unfold lcsRow at ih ⊢
    rw [List.foldl_append, ih, List.foldl_cons, List.foldl_nil, hrow, hrow, List.headD_cons,
      List.tail_cons, hnext]

/-- Entry `k` of a backward row belongs to the last `k` new lines. -/
theorem lcsRowBack_eq (old new : List α) :
    lcsRowBack old new =
      (List.range (new.length + 1)).map fun k => lcsLength old (new.drop (new.length - k)) := by
  rw [lcsRowBack, lcsRow_eq, List.length_reverse]
  refine List.map_congr_left fun k _ => ?_
  rw [List.take_reverse, lcsLength_reverse]

/-- At point `k` the entries of the two rows add up to the lengths for the lines before and after
that point. -/
theorem zipWith_lcsRow_eq (front back new : List α) :
    List.zipWith (· + ·) (lcsRow front new) (lcsRowBack back new).reverse =
      (List.range (new.length + 1)).map fun k =>
        lcsLength front (new.take k) + lcsLength back (new.drop k) := by
  apply List.ext_getElem
  · simp [lcsRow_eq, lcsRowBack_eq]
  · intro k hk _
    have hbound : k ≤ new.length := by
      simp [lcsRow_eq, lcsRowBack_eq] at hk
      omega
    simp only [lcsRow_eq, lcsRowBack_eq, List.getElem_zipWith, List.getElem_map,
      List.getElem_range, List.getElem_reverse, List.length_map, List.length_range]
    congr 3
    omega

/-- Of the entries seen and those to come, the one chosen is a greatest. -/
theorem firstMax_spec (seen : List ℕ) (best : ℕ × ℕ) (rest : List ℕ)
    (hbest : seen[best.1]? = some best.2) (hmax : ∀ n ∈ seen, n ≤ best.2) :
    (seen ++ rest)[(firstMax best seen.length rest).1]? =
        some (firstMax best seen.length rest).2 ∧
      ∀ n ∈ seen ++ rest, n ≤ (firstMax best seen.length rest).2 := by
  induction rest generalizing seen best with
  | nil => simpa [firstMax] using ⟨hbest, hmax⟩
  | cons n rest ih =>
    have hstep := ih (seen ++ [n]) (if best.2 < n then (seen.length, n) else best)
    simp only [List.length_append, List.length_singleton, List.append_assoc,
      List.singleton_append] at hstep
    apply hstep
    · split
      · simp
      · rw [List.getElem?_append_left (List.getElem?_eq_some_iff.mp hbest).1, hbest]
    · intro m hm
      rcases List.mem_append.mp hm with hm | hm
      · have := hmax m hm
        split <;> omega
      · rw [List.mem_singleton.mp hm]
        split <;> omega

/-- The cut is a point of the new lines at which the lengths add up to no less than elsewhere. -/
theorem splitPoint_spec (front back new : List α) :
    splitPoint front back new ≤ new.length ∧
      ∀ k ≤ new.length, lcsLength front (new.take k) + lcsLength back (new.drop k) ≤
        lcsLength front (new.take (splitPoint front back new)) +
          lcsLength back (new.drop (splitPoint front back new)) := by
  let total := fun k => lcsLength front (new.take k) + lcsLength back (new.drop k)
  have htotals : List.zipWith (· + ·) (lcsRow front new) (lcsRowBack back new).reverse =
      (List.range (new.length + 1)).map total := zipWith_lcsRow_eq front back new
  cases hcases : (List.range (new.length + 1)).map total with
  | nil => simp at hcases
  | cons n rest =>
    obtain ⟨hchosen, hmax⟩ := firstMax_spec [n] (0, n) rest rfl (by simp)
    have hpoint : splitPoint front back new = (firstMax (0, n) 1 rest).1 := by
      rw [splitPoint, htotals, hcases]
    rw [List.singleton_append, List.length_singleton, ← hcases, ← hpoint,
      List.getElem?_map] at hchosen
    rw [List.singleton_append, List.length_singleton, ← hcases] at hmax
    obtain ⟨point, hpointRange, hvalue⟩ := Option.map_eq_some_iff.mp hchosen
    obtain ⟨hbound, hindex⟩ := List.getElem?_eq_some_iff.mp hpointRange
    rw [List.getElem_range] at hindex
    rw [List.length_range] at hbound
    refine ⟨by omega, fun k hk => ?_⟩
    have hle := hmax (total k) (List.mem_map_of_mem (List.mem_range.mpr (by omega)))
    rw [← hvalue, ← hindex] at hle
    exact hle

/-- The longest common subsequence of the whole is found on the two sides of the cut. -/
theorem lcsLength_split (front back new : List α) :
    lcsLength (front ++ back) new =
      lcsLength front (new.take (splitPoint front back new)) +
        lcsLength back (new.drop (splitPoint front back new)) := by
  apply le_antisymm
  · obtain ⟨k, hk, hle⟩ := exists_lcsLength_append_le front back new
    exact hle.trans ((splitPoint_spec front back new).2 k hk)
  · have hle := lcsLength_add_le front back (new.take (splitPoint front back new))
      (new.drop (splitPoint front back new))
    rwa [List.take_append_drop] at hle

end TableTypes.LineDiff
