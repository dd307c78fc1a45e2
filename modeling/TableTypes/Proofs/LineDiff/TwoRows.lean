import TableTypes.Proofs.LineDiff.Subsequence

/-!
# Rows kept in two rows of storage

A row of common subsequence lengths needs only the row above it, so two rows of storage do for the
whole table: the next row is written over the one before the last, entry by entry, and then the two
change places. Nothing is cleared in between. For the ends of the new lines, both sides are read from
their last line on. The rows that come out are those that edit scripts are made from, and each entry
is the length of a longest common subsequence.
-/

namespace TableTypes.LineDiff

open scoped List

variable {α : Type} {n : ℕ}

/-! ## The storage -/

/-- Two rows of the table for `n` new lines: the last one that is complete, and the one that is
written over, where entries of an older row still stand behind the new ones. -/
structure TwoRows (n : ℕ) where
  done : Vector ℕ (n + 1)
  spare : Vector ℕ (n + 1)

/-- The line at a position, which is counted from the end of the lines if `back` is set. -/
def lineAt (back : Bool) (lines : List α) (i : Fin lines.length) : α :=
  lines.get (if back then i.rev else i)

/-- Lines in the order in which they are read. -/
def inOrder (back : Bool) (lines : List α) : List α :=
  if back then lines.reverse else lines

/-- The order in which lines are read makes no difference to how many there are. -/
@[simp] theorem length_inOrder (back : Bool) (lines : List α) :
    (inOrder back lines).length = lines.length := by
  cases back <;> simp [inOrder]

/-- The line at a position is found there in the order of reading. -/
theorem getElem?_inOrder (back : Bool) (lines : List α) (i : Fin lines.length) :
    (inOrder back lines)[i.val]? = some (lineAt back lines i) := by
  cases back with
  | false => simp [inOrder, lineAt]
  | true =>
    have hposition : lines.length - 1 - i.val = i.rev.val := by
      rw [Fin.val_rev]
      omega
    simp [inOrder, lineAt, hposition]

section

variable [DecidableEq α]

/-- Writes the entry behind position `j` of the next row, for the old line `a` and the new line
`b`. -/
def TwoRows.write (rows : TwoRows n) (a b : α) (j : Fin n) : TwoRows n :=
  { rows with
    spare := rows.spare.set (j.val + 1)
      (if a = b then rows.done[j.val] + 1 else max rows.done[j.val + 1] rows.spare[j.val]) }

/-- Writes the next row, except for its first entry, and makes it the last complete one. -/
def TwoRows.advance (rows : TwoRows n) (a : α) (line : Fin n → α) : TwoRows n :=
  let written := Fin.foldl n (fun rows j => rows.write a (line j) j) rows
  { done := written.spare, spare := written.done }

/-- The storage before the first old line. -/
def TwoRows.start (n : ℕ) : TwoRows n :=
  { done := .replicate (n + 1) 0, spare := .replicate (n + 1) 0 }

/-- The storage behind the last old line, for the beginnings of the new lines, or for their ends if
`back` is set. -/
def tableRows (back : Bool) (old new : List α) : TwoRows new.length :=
  Fin.foldl old.length (fun rows i => rows.advance (lineAt back old i) (lineAt back new))
    (TwoRows.start new.length)

/-! ## What stands in the storage -/

/-- The complete row is that of `above`, and the first entries of the other one, up to entry `j`, are
those of the row of `here`. Nothing is said of the entries behind them. -/
structure TwoRows.Filled (rows : TwoRows n) (above here lines : List α) (j : ℕ) : Prop where
  done_eq : ∀ k (hk : k < n + 1), rows.done[k] = lcsLength above (lines.take k)
  spare_eq : ∀ k (hk : k < n + 1), k ≤ j → rows.spare[k] = lcsLength here (lines.take k)

/-- Writing an entry makes one entry more right. -/
theorem TwoRows.Filled.write {rows : TwoRows n} {above lines : List α} {a b : α} {j : Fin n}
    (h : rows.Filled above (above ++ [a]) lines j) (hb : lines[j.val]? = some b) :
    (rows.write a b j).Filled above (above ++ [a]) lines (j + 1) := by
  refine ⟨h.done_eq, fun k hk hkj => ?_⟩
  by_cases hlast : k = j.val + 1
  · subst hlast
    have htake : lines.take (j.val + 1) = lines.take j.val ++ [b] := by
      rw [List.take_add_one, hb, Option.toList_some]
    rw [htake, lcsLength_append_singleton, ← htake, ← h.done_eq, ← h.done_eq,
      ← h.spare_eq j.val (by omega) le_rfl]
    exact Vector.getElem_set_self hk
  · rw [← h.spare_eq k hk (by omega)]
    exact Vector.getElem_set_ne (by omega) hk (Ne.symm hlast)

/-- Before anything is written over, the first entry is right already: no line comes before it. -/
theorem TwoRows.Filled.restart {rows : TwoRows n} {above here lines : List α} {j : ℕ}
    (h : rows.Filled above here lines j) (other : List α) : rows.Filled above other lines 0 := by
  refine ⟨h.done_eq, fun k hk hk0 => ?_⟩
  obtain rfl : k = 0 := by omega
  rw [h.spare_eq 0 hk (Nat.zero_le j), List.take_zero, lcsLength_nil_right, lcsLength_nil_right]

/-- A loop over `n` positions keeps what each turn carries on by one position. -/
theorem foldl_of_turns {β : Type} {P : ℕ → β → Prop} {turn : β → Fin n → β} {b : β}
    (hstart : P 0 b) (hturn : ∀ (i : Fin n) b, P i b → P (i + 1) (turn b i)) :
    P n (Fin.foldl n turn b) := by
  induction n with
  | zero => exact hstart
  | succ n ih =>
    rw [Fin.foldl_succ_last]
    exact hturn (Fin.last n) _ (ih fun i b h => hturn i.castSucc b h)

/-- One line more: the row of `above` gives way to the row with this line behind it. The entries
left over in the other row do no harm, as each is written over before it is read. -/
theorem TwoRows.Filled.advance {rows : TwoRows n} {above here lines : List α} {line : Fin n → α}
    (h : rows.Filled above here lines 0) (hline : ∀ j, lines[j.val]? = some (line j)) (a : α) :
    (rows.advance a line).Filled (above ++ [a]) (above ++ [a]) lines 0 := by
  have hwritten : (Fin.foldl n (fun rows j => rows.write a (line j) j) rows).Filled above
      (above ++ [a]) lines n :=
    foldl_of_turns (P := fun j (rows : TwoRows n) => rows.Filled above (above ++ [a]) lines j)
      (h.restart _) fun j rows hrows => hrows.write (hline j)
  refine ⟨fun k hk => hwritten.spare_eq k hk (by omega), fun k hk hk0 => ?_⟩
  obtain rfl : k = 0 := by omega
  rw [List.take_zero, lcsLength_nil_right]
  exact (hwritten.done_eq 0 hk).trans (by simp)

/-- Behind the last old line, the complete row is that of all lines in the order in which they are
read. -/
theorem filled_tableRows (back : Bool) (old new : List α) :
    (tableRows back old new).Filled (inOrder back old) [] (inOrder back new) 0 := by
  have hrows : (tableRows back old new).Filled ((inOrder back old).take old.length) []
      (inOrder back new) 0 :=
    foldl_of_turns
      (P := fun i (rows : TwoRows new.length) =>
        rows.Filled ((inOrder back old).take i) [] (inOrder back new) 0)
      ⟨by simp [TwoRows.start], by simp [TwoRows.start]⟩ fun i rows h => by
        rw [List.take_add_one, getElem?_inOrder, Option.toList_some]
        exact (h.advance (getElem?_inOrder back new) _).restart []
  rwa [List.take_of_length_le (by simp)] at hrows

/-- The rows that edit scripts are made from can be kept in two rows of storage. -/
theorem toList_done_tableRows (back : Bool) (old new : List α) :
    (tableRows back old new).done.toList = lcsRow (inOrder back old) (inOrder back new) := by
  apply List.ext_getElem
  · simp [lcsRow_eq]
  · intro k hk _
    rw [Vector.length_toList] at hk
    simp [(filled_tableRows back old new).done_eq k hk, lcsRow_eq]

/-! ## Entries are lengths of longest common subsequences -/

/-- A number of lines that a common subsequence of two lists has and none exceeds. -/
structure IsLongestCommon (count : ℕ) (xs ys : List α) : Prop where
  exists_common : ∃ s, s <+ xs ∧ s <+ ys ∧ s.length = count
  length_le : ∀ s, s <+ xs → s <+ ys → s.length ≤ count

/-- The recursive length is that of a longest common subsequence. -/
theorem isLongestCommon_lcsLength (xs ys : List α) : IsLongestCommon (lcsLength xs ys) xs ys :=
  ⟨exists_common_sublist xs ys, fun _ => length_le_lcsLength⟩

/-- **The rows hold lengths of longest common subsequences.** Two rows of storage, written over in
turn and never cleared, end up with the rows that edit scripts are made from, in both directions.
Entry `k` of the forward row is the length of a longest common subsequence of the old lines and the
first `k` new ones, and entry `k` of the backward row that of the old lines and the last `k`. -/
theorem rows_hold_longest (old new : List α) :
    (tableRows false old new).done.toList = lcsRow old new ∧
    (tableRows true old new).done.toList = lcsRowBack old new ∧
    ∀ k ≤ new.length,
      (∃ count, (lcsRow old new)[k]? = some count ∧ IsLongestCommon count old (new.take k)) ∧
      ∃ count, (lcsRowBack old new)[k]? = some count ∧
        IsLongestCommon count old (new.drop (new.length - k)) := by
  refine ⟨toList_done_tableRows false old new, toList_done_tableRows true old new,
    fun k hk => ⟨⟨_, ?_, isLongestCommon_lcsLength _ _⟩, _, ?_, isLongestCommon_lcsLength _ _⟩⟩
  · rw [lcsRow_eq, List.getElem?_map, List.getElem?_range (by omega), Option.map_some]
  · rw [lcsRowBack_eq, List.getElem?_map, List.getElem?_range (by omega), Option.map_some]

end

/-- The first two of the lines `b`, `c`, `a` stand in `a`, `b`, `c` in this order, and of the last
two only one can be kept. -/
theorem rows_hold_longest_of_rotated :
    let old := ["a", "b", "c"]
    let new := ["b", "c", "a"]
    2 ≤ new.length ∧
      (lcsRow old new)[2]? = some 2 ∧ IsLongestCommon 2 old ["b", "c"] ∧
      (lcsRowBack old new)[2]? = some 1 ∧ IsLongestCommon 1 old ["c", "a"] := by
  intro old new
  have hlength : 2 ≤ new.length := by decide
  have hfront : (lcsRow old new)[2]? = some 2 := by decide
  have hback : (lcsRowBack old new)[2]? = some 1 := by decide
  obtain ⟨-, -, hentries⟩ := rows_hold_longest old new
  obtain ⟨⟨front, hfront', hlongest⟩, back, hback', hlongest'⟩ := hentries 2 hlength
  obtain rfl : 2 = front := Option.some.inj (hfront.symm.trans hfront')
  obtain rfl : 1 = back := Option.some.inj (hback.symm.trans hback')
  exact ⟨hlength, hfront, hlongest, hback, hlongest'⟩

end TableTypes.LineDiff
